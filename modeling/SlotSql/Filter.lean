import SlotSql.Evaluation
/-!
# Filters

A filter is a comparison with a literal, made ready to be applied to many values. The filters on one
column form a chain, which accepts a value that each of them accepts. A set passes a filter if one of
its members does; only to differ from a literal, all of its members have to.
-/
namespace SlotSql

/-- A comparison with a literal. -/
structure Filter where
  comparison : Comparison
  value : String
  /-- The regular expression of a match. -/
  regex : Option Regex.Node

namespace Filter

/-- The filter of a comparison; fails if the regular expression of a match is malformed. -/
def ofComparison (c : Comparison) (value : String) : Except EvalError Filter := do
  if c = .pattern then return ⟨c, value, some (← Evaluation.regex value)⟩
  else return ⟨c, value, none⟩

/-- The filter as it is shown. -/
def text (f : Filter) : String := f.comparison.text ++ " '" ++ f.value ++ "'"

/-- Whether a text passes. -/
def acceptsText (f : Filter) (value : String) : Bool :=
  let (literal, cs) := (f.value.toList, value.toList)
  match f.comparison with
  | .leftLike => (Text.stripStart? literal cs).isSome
  | .rightLike => (Text.stripEnd? literal cs).isSome
  | .like => (Text.cut? literal cs).isSome
  | .pattern => (f.regex.map fun r => r.matches cs).getD false
  | c => Evaluation.holds c (Evaluation.textOrder value f.value)

/-- Whether a value of a type passes; without a type it is a text. -/
def accepts (f : Filter) (type : Option ValueType) (value : String) : Except EvalError Bool :=
  if f.comparison = .ignore then .ok true
  else
    match type.filter ValueType.isNumeric with
    | none => .ok (f.acceptsText value)
    | some t =>
      if f.comparison.isTextual then .error (.unsupportedOperator f.comparison t)
      else (Evaluation.numberOrder t value f.value).map (Evaluation.holds f.comparison)

/-- Whether a set with members passes. -/
def acceptsSet (f : Filter) (members : List String) : Except EvalError Bool := do
  let results ← members.mapM (f.accepts (some .set))
  return if f.comparison = .ne then results.all id else results.any id

/-- Whether a condition holds for every item, looking no further than the first for which it does
not. -/
def allHold {α : Type} (holds : α → Except EvalError Bool) : List α → Except EvalError Bool
  | [] => .ok true
  | a :: as => do if ← holds a then allHold holds as else return false

/-- Whether a value passes a chain; a missing one passes only the empty chain. -/
def chainAccepts (chain : List Filter) (type : ValueType) : Option String → Except EvalError Bool
  | none => .ok chain.isEmpty
  | some value => allHold (fun f => f.accepts (some type) value) chain

/-- Whether a set passes a chain; an empty one counts as missing. -/
def chainAcceptsSet (chain : List Filter) (members : List String) : Except EvalError Bool :=
  if members.isEmpty then .ok chain.isEmpty else allHold (·.acceptsSet members) chain

/-- The chain as it is shown. -/
def chainText (chain : List Filter) : String := " AND ".intercalate (chain.map text)

end Filter

/-- Whether `left` compares with `right` as asked. -/
def evaluate (type : Option ValueType) (left : String) (c : Comparison) (right : String) :
    Except EvalError Bool := do (← Filter.ofComparison c right).accepts type left

end SlotSql
