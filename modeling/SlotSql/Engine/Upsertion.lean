import SlotSql.Engine.Scan
import SlotSql.Plan.Build
import SlotSql.Table.Value
/-!
# Writing rows

A statement that writes rows is first prepared: its values are checked and brought into the form in
which they are stored, and the key of the row, or a pattern for the keys of several, is made of them.
Then it is carried out: plain attributes go into the hash of the row, each set under a key of its
own, and a row without plain attributes gets a marker, so that its key exists.
-/
namespace SlotSql

open Cluster

/-- An assignment whose value has been checked. -/
structure PreparedAssignment where
  field : Field
  op : AssignOp
  value : String
  deriving DecidableEq, Repr

/-- What to do with rows that exist, or where rows come from. -/
inductive PreparedMode where
  | overwrite
  | ignore
  | update (assignments : List PreparedAssignment)
  | query (q : Query)
  deriving DecidableEq, Repr

/-- A statement that writes rows, ready to be carried out. -/
structure PreparedUpsertion where
  table : Table
  /-- The values to write, in the order of the statement. -/
  values : List (Field × String)
  /-- The parts of the row key, and their values where the statement gives them. -/
  bound : List (String × Option String)
  /-- The key of the row, if every part of it has a value. -/
  key : Option String
  /-- The pattern of the keys of the rows. -/
  pattern : String
  mode : PreparedMode

/-- What came of writing rows. -/
inductive UpsertOutcome where
  | written (count : Nat)
  | ignored
  | updated (count : Nat)
  deriving DecidableEq, Repr

/-- The field of a row without plain attributes. -/
def rowMarker : String := "$"

namespace Upsertion

/-- The error that a column does not exist. -/
def unknownField (t : Table) (name : String) : EngineError :=
  .schema ("unknown field '" ++ name ++ "' in " ++ t.fullName)

/-- The error that a part of the row key has no value. -/
def unboundKey (t : Table) : EngineError :=
  .plan ("every rowkey field of " ++ t.fullName ++ " needs a value")

/-- The columns of a statement that follow those of the names `before`. -/
def fields (t : Table) (before : List String) : List String → Except EngineError (List Field)
  | [] => .ok []
  | name :: names => do
    let some f := t.field? name | throw (unknownField t name)
    if before.contains name then throw (.schema ("field '" ++ name ++ "' listed twice"))
    return f :: (← fields t (name :: before) names)

/-- The text of a value to write, at the time `now`. -/
def resolve (now : Int) : NewValue → Except EngineError String
  | .literal l => .ok l.value
  | .call c => do
    let some v ← c.evaluate now none | throw (.plan (c.text ++ " needs a literal argument here"))
    return v

/-- Accepts values among which is one for every column that cannot be absent. -/
def checkPresent (t : Table) (values : List (Field × String)) : Except EngineError Unit :=
  match t.fields.find? fun f => !f.nullable && !values.any fun v => v.1.name == f.name with
  | some f => .error (.schema ("field '" ++ f.name ++ "' is NOT NULL and needs a value"))
  | none => .ok ()

/-- The value that is added to or taken from a column. -/
def operand (f : Field) (value : String) : Except EngineError String :=
  let t := f.type
  let checked {α : Type} : Except EvalError α → Except EngineError String
    | .ok _ => .ok (Text.trimmed value)
    | .error _ =>
      .error (.schema ("'" ++ value ++ "' is not a valid " ++ t.name ++ " operand for '" ++
        f.name ++ "'"))
  if t.isSet then f.normalize value
  else if t.isInteger then checked (Evaluation.integer t value)
  else if t.isFloat then checked (Evaluation.double t value)
  else
    .error (.schema ("arithmetic needs a numeric or SET field, '" ++ f.name ++ "' is " ++ t.name))

/-- Assignments that follow those to the columns `before`, with their values checked. -/
def assignments (t : Table) (now : Int) (before : List String) :
    List Assignment → Except EngineError (List PreparedAssignment)
  | [] => .ok []
  | a :: as => do
    let some f := t.field? a.column | throw (unknownField t a.column)
    if f.isKey then throw (.plan ("rowkey field '" ++ f.name ++ "' cannot be updated"))
    if before.contains f.name then throw (.schema ("field '" ++ f.name ++ "' assigned twice"))
    let raw ← resolve now a.value
    let value ← if a.op = .set then f.normalize raw else operand f raw
    return ⟨f, a.op, value⟩ :: (← assignments t now (f.name :: before) as)

/-- What to do with a row that exists. -/
def mode (t : Table) (now : Int) (values : List (Field × String)) (key : Option String) :
    OnDuplicate → Except EngineError PreparedMode
  | .update as => do return .update (← assignments t now [] as)
  | d => do
    if key.isNone then throw (unboundKey t)
    checkPresent t values
    return if d = .ignore then .ignore else .overwrite

/-- The values of a statement, each in the form in which its column stores it. -/
def storedValues (now : Int) : List (Field × NewValue) → Except EngineError (List (Field × String))
  | [] => .ok []
  | (f, v) :: rest => do
    let stored ← f.normalize (← resolve now v)
    return (f, stored) :: (← storedValues now rest)

/-- Checks a statement against its table. -/
def prepare (t : Table) (now : Int) (u : Upsertion) : Except EngineError PreparedUpsertion := do
  let fs ← fields t [] u.columns
  match u.source with
  | .query q =>
    return { table := t, values := [], bound := [], key := none, mode := .query q
             pattern := Key.allRows t.tablespace t.name t.keyCount }
  | .values vs =>
    if vs.length ≠ fs.length then
      throw (.schema (toString fs.length ++ " columns but " ++ toString vs.length ++ " values"))
    let values ← storedValues now (fs.zip vs)
    let bound := t.keyFields.map fun f =>
      (f.name, (values.find? fun v => v.1.name == f.name).map Prod.snd)
    let key := (bound.mapM Prod.snd).map t.rowKey
    let pattern := t.rowKey (bound.map fun b => (b.2.map Glob.escape).getD "*")
    return { table := t, values, bound, key, pattern, mode := ← mode t now values key u.onDuplicate }

/-! ## Carrying out -/

/-- The plain attributes among values, or the marker if there is none. -/
def hashFields (values : List (Field × String)) : List (String × Bytes) :=
  match (values.filter fun v => v.1.isPlain).map fun v => (v.1.name, Utf8.bytes v.2) with
  | [] => [(rowMarker, [])]
  | pairs => pairs

/-- Replaces a set of a row. -/
def replaceSet (key field value : String) : Engine Unit := do
  let _ ← Asking.del [Key.set key field]
  let _ ← Asking.sadd (Key.set key field) (setMembers value)

/-- Writes a row. -/
def writeRow (key : String) (values : List (Field × String)) : Engine Unit := do
  Asking.hmset key (hashFields values)
  (values.filter fun v => v.1.type.isSet).forM fun v => replaceSet key v.1.name v.2

/-- Carries out an assignment to a set. -/
def assignSet (key : String) (a : PreparedAssignment) : Engine Unit := do
  let setKey := Key.set key a.field.name
  match a.op with
  | .set => replaceSet key a.field.name a.value
  | .add => let _ ← Asking.sadd setKey (setMembers a.value)
  | .sub => let _ ← Asking.srem setKey (setMembers a.value)

/-- The sum or difference of an old value and an operand; a missing value counts as zero. -/
def arithmetic (a : PreparedAssignment) (old : Option String) : Except EngineError String := do
  let (f, t) := (a.field, a.field.type)
  let current {α : Type} (read : String → Except EvalError α) (zero : α) : Except EngineError α :=
    match old with
    | none => .ok zero
    | some v =>
      match read v with
      | .ok n => .ok n
      | .error _ =>
        .error (.schema ("stored value '" ++ v ++ "' of '" ++ f.name ++ "' is not a valid " ++
          t.name))
  let own {α : Type} : Except EvalError α → Except EngineError α
    | .ok n => .ok n
    | .error e => .error e.toEngine
  if t.isFloat then
    let x ← current (Evaluation.double t) 0
    let y ← own (Evaluation.double t a.value)
    let z := if a.op = .add then x + y else x - y
    if !z.isFinite then throw (.schema ("'" ++ f.name ++ "' overflows"))
    return Number.display z
  else
    let m ← current (Evaluation.integer t) 0
    let n ← own (Evaluation.integer t a.value)
    let k := if a.op = .add then m + n else m - n
    match t.integerRange? with
    | some (lo, hi) =>
      if k < lo ∨ hi < k then
        throw (.schema ("result of updating '" ++ f.name ++ "' is out of range for " ++ t.name))
    | none => pure ()
    return Evaluation.integerText t k

/-- Whether an assignment needs the old value of a plain attribute. -/
def needsOld (a : PreparedAssignment) : Bool := a.op ≠ .set && !a.field.type.isSet

/-- Carries out assignments to sets, and gathers the new values of plain attributes. -/
def assign (key : String) (old : List (String × Option Bytes)) :
    List PreparedAssignment → Engine (List (String × Bytes))
  | [] => return []
  | a :: as => do
    if a.field.type.isSet then
      assignSet key a
      assign key old as
    else
      let value ← if a.op = .set then pure a.value
        else
          let current := ((old.lookup a.field.name).bind id).map Utf8.decodeLossy
          ExceptT.mk (pure (arithmetic a current))
      return (a.field.name, Utf8.bytes value) :: (← assign key old as)

/-- Carries out assignments to a row. -/
def updateRow (key : String) (as : List PreparedAssignment) : Engine Unit := do
  let names := (as.filter needsOld).map fun a => a.field.name
  let old ← if names.isEmpty then pure [] else Asking.hmget key names
  let pairs ← assign key (names.zip old) as
  if !pairs.isEmpty then Asking.hmset key pairs

/-- The keys of the rows that a statement without a full key means. -/
def targets (v : ScanEnv) (u : PreparedUpsertion) : Engine (List String) := do
  let conditions := u.bound.filterMap fun (name, value) =>
    value.map fun value => ⟨name, .eq, ⟨value, true⟩⟩
  match Plan.ofConditions v.settings u.table conditions with
  | .error e => throw e.toEngine
  | .ok p => ExceptT.mk (Prod.fst <$> (v.matchingKeys p).run.run ⟨{}, p.emptyRows⟩)

/-- Carries out a prepared statement. -/
def execute (v : ScanEnv) (u : PreparedUpsertion) : Engine UpsertOutcome := do
  match u.mode, u.key with
  | .query _, _ => throw (.unsupported "UPSERT ... SELECT")
  | .overwrite, some key =>
    writeRow key u.values
    return .written 1
  | .ignore, some key =>
    if ← Asking.existsKey key then return .ignored
    writeRow key u.values
    return .written 1
  | .update as, some key =>
    if ← Asking.existsKey key then
      updateRow key as
      return .updated 1
    else
      ExceptT.mk (pure (checkPresent u.table u.values))
      writeRow key u.values
      return .written 1
  | .update as, none =>
    let keys ← targets v u
    keys.forM fun key => updateRow key as
    return .updated keys.length
  | _, none => throw (unboundKey u.table)

end Upsertion
end SlotSql
