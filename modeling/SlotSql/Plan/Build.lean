import SlotSql.Pattern.Glob
import SlotSql.Plan.Basic
import SlotSql.Settings
/-!
# Making plans

Conditions on the parts of a row key narrow down the keys to look at: a single equation becomes a
part of the key and is not looked at again, a condition on the beginning, the end or the inside of a
part becomes a pattern. All other conditions are filters, on parts of the key or on attributes.
-/
namespace SlotSql

/-- Why there is no plan. -/
inductive PlanError where
  | unknownColumn (column : String)
  | illegalKeyChars (column value : String)
  | tooManyFields (count max : Nat)
  | countMixed
  | textualOnNumeric (comparison : Comparison) (column : String) (type : ValueType)
  | invalidLiteral (column value : String) (type : ValueType)
  | invalidRegex (column reason : String)
  deriving DecidableEq, Repr

namespace PlanError

/-- The name of the kind of an error. -/
def kind : PlanError → String
  | unknownColumn _ => "UnknownColumn"
  | illegalKeyChars _ _ => "IllegalKeyChars"
  | tooManyFields _ _ => "TooManyFields"
  | countMixed => "CountMixed"
  | textualOnNumeric _ _ _ => "TextualOnNumeric"
  | invalidLiteral _ _ _ => "InvalidLiteral"
  | invalidRegex _ _ => "InvalidRegex"

/-- What went wrong. -/
def message : PlanError → String
  | unknownColumn c => "unknown column '" ++ c ++ "'"
  | illegalKeyChars c v =>
    "value '" ++ v ++ "' of rowkey '" ++ c ++ "' cannot contain ':', '\x7b', '\x7d' or '*'"
  | tooManyFields n m => toString n ++ " fields to fetch, limit is " ++ toString m
  | countMixed => "COUNT(*) cannot be combined with other fields"
  | textualOnNumeric op c t =>
    "operator " ++ op.text ++ " cannot be applied to " ++ t.name ++ " column '" ++ c ++ "'"
  | invalidLiteral c v t => "'" ++ v ++ "' is not a valid " ++ t.name ++ " for column '" ++ c ++ "'"
  | invalidRegex c r => "invalid regular expression for '" ++ c ++ "': " ++ r

/-- The error as one of the engine. -/
def toEngine (e : PlanError) : EngineError := .plan e.message

end PlanError

namespace Plan

/-- The column of a name. -/
def fieldOf (t : Table) (name : String) : Except PlanError Field :=
  match t.field? name with
  | some f => .ok f
  | none => .error (.unknownColumn name)

/-- The literal of a condition in the form in which the column stores it. -/
def literalFor (f : Field) (c : Condition) : Except PlanError String :=
  let value := c.value.value
  let invalid : Except PlanError String := .error (.invalidLiteral f.name value f.type)
  if c.comparison = .ignore then .ok value
  else if f.type.isInteger then
    match Evaluation.integer f.type value with
    | .ok n => .ok (Evaluation.integerText f.type n)
    | .error _ => invalid
  else if f.type.isFloat then
    match Evaluation.double f.type value with
    | .ok _ => .ok value
    | .error _ => invalid
  else .ok value

/-- The filter of a condition on a column. -/
def filterFor (f : Field) (c : Condition) : Except PlanError Filter := do
  if f.type.isNumeric && c.comparison.isTextual then
    throw (.textualOnNumeric c.comparison f.name f.type)
  if f.isKey && c.comparison ≠ .pattern && Key.holdsStructural c.value.value then
    throw (.illegalKeyChars f.name c.value.value)
  let literal ← literalFor f c
  match Filter.ofComparison c.comparison literal with
  | .ok filter => return filter
  | .error e => throw (.invalidRegex f.name e.message)

/-- The filters of a plan under construction. -/
structure Filters where
  keys : List KeyFilter
  fetches : List FetchFilter := []

namespace Filters

/-- The position of a column in the row key. -/
def keyIndex? (fs : Filters) (f : Field) : Option Nat :=
  fs.keys.findIdx? fun k => k.field.name == f.name

/-- The position of an attribute among those that are read; it is added if it is not there. -/
def fetch (fs : Filters) (f : Field) : Nat × Filters :=
  match fs.fetches.findIdx? fun g => g.field.name == f.name with
  | some i => (i, fs)
  | none => (fs.fetches.length, { fs with fetches := fs.fetches ++ [{ field := f }] })

/-- Where the value of a column comes from. -/
def source (fs : Filters) (f : Field) : Source × Filters :=
  match fs.keyIndex? f with
  | some i => (.key i, fs)
  | none => let (i, fs) := fs.fetch f; (.fetch i, fs)

/-- Adds the filter of a condition. -/
def addCondition (t : Table) (fs : Filters) (c : Condition) : Except PlanError Filters := do
  let f ← fieldOf t c.column
  let filter ← filterFor f c
  match fs.keyIndex? f with
  | some i =>
    return { fs with keys := fs.keys.modify i fun k => { k with chain := k.chain ++ [filter] } }
  | none =>
    let (i, fs) := fs.fetch f
    return { fs with
      fetches := fs.fetches.modify i fun g => { g with chain := g.chain ++ [filter] } }

/-- Adds a column that the result shows. -/
def addField (fs : Filters) (f : Field) : Output × Filters :=
  let (source, fs) := fs.source f
  let fs := match source with
    | .key _ => fs
    | .fetch i => { fs with fetches := fs.fetches.modify i fun g => { g with projected := true } }
  (.field f source, fs)

/-- Adds columns that the result shows. -/
def addFields (fs : Filters) : List Field → List Output × Filters
  | [] => ([], fs)
  | f :: rest =>
    let (o, fs) := fs.addField f
    let (os, fs) := fs.addFields rest
    (o :: os, fs)

/-- Adds an item of a query's list. -/
def addItem (t : Table) (alone : Bool) (fs : Filters) :
    SelectItem → Except PlanError (List Output × Filters)
  | .count => if alone then .ok ([.count], fs) else .error .countMixed
  | .all => .ok (fs.addFields t.fields)
  | .column name => do return fs.addFields [← fieldOf t name]
  | .call c =>
    match c.argument with
    | some (.column name) => do
      let (source, fs) := fs.source (← fieldOf t name)
      return ([.call c (some source)], fs)
    | _ => .ok ([.call c none], fs)

/-- Adds the items of a query's list. -/
def addItems (t : Table) (alone : Bool) (fs : Filters) :
    List SelectItem → Except PlanError (List Output × Filters)
  | [] => .ok ([], fs)
  | item :: rest => do
    let (os, fs) ← fs.addItem t alone item
    let (more, fs) ← fs.addItems t alone rest
    return (os ++ more, fs)

end Filters

/-- Takes the one equation out of the conditions on a part of the key, if there is just one. -/
def bind (k : KeyFilter) : KeyFilter :=
  match k.chain.filter fun f => f.comparison = .eq with
  | [eq] => { k with bound := some eq.value, chain := k.chain.filter fun f => f.comparison ≠ .eq }
  | _ => k

/-- The pattern for one part of the key. -/
def partPattern (k : KeyFilter) : String :=
  match k.bound with
  | some value => Glob.escape value
  | none =>
    match k.chain.find? fun f => f.comparison.isLike with
    | none => "*"
    | some f =>
      let literal := Glob.escape f.value
      match f.comparison with
      | .leftLike => literal ++ "*"
      | .rightLike => "*" ++ literal
      | _ => "*" ++ literal ++ "*"

/-- The plan for conditions on a table and the items of a query's list. -/
def build (s : Settings) (t : Table) (conditions : List Condition) (items : List SelectItem) :
    Except PlanError Plan := do
  let start : Filters := { keys := t.keyFields.map fun f => { field := f } }
  let fs ← conditions.foldlM (Filters.addCondition t) start
  let keys := fs.keys.map bind
  let (outputs, fs) ← fs.addItems t (items.length ≤ 1) items
  if s.maxFields < fs.fetches.length then throw (.tooManyFields fs.fetches.length s.maxFields)
  return {
    table := t
    keys
    fetches := fs.fetches
    outputs
    pattern := t.rowKey (keys.map partPattern)
    directKey := (keys.mapM KeyFilter.bound).map t.rowKey
    countOnly := items.contains .count }

/-- The plan of a query. -/
def ofQuery (s : Settings) (t : Table) (q : Query) : Except PlanError Plan :=
  build s t q.selection.conditions q.items

/-- The plan of a deletion, or of any search for keys. -/
def ofConditions (s : Settings) (t : Table) (conditions : List Condition) : Except PlanError Plan :=
  build s t conditions []

end Plan
end SlotSql
