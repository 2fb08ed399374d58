import SlotSql.Error
import SlotSql.Number.Double
import SlotSql.Number.Integer
import SlotSql.Pattern.Regex.Parser
import SlotSql.Statement.Basic
import SlotSql.Text.Blank
import SlotSql.Text.Utf8
/-!
# Comparing values

A stored value is compared with a literal as the type of its column says. Numbers are compared by
value; everything else as text, where a text of fewer octets comes first and texts of the same size
are ordered octet by octet.
-/
namespace SlotSql

/-- Why a comparison has no answer. -/
inductive EvalError where
  | invalidNumber (value : String) (type : ValueType)
  | unsupportedOperator (comparison : Comparison) (type : ValueType)
  | invalidRegex (pattern reason : String)
  deriving DecidableEq, Repr

namespace EvalError

/-- The name of the kind of an error. -/
def kind : EvalError → String
  | invalidNumber _ _ => "InvalidNumber"
  | unsupportedOperator _ _ => "UnsupportedOperator"
  | invalidRegex _ _ => "InvalidRegex"

/-- What went wrong. -/
def message : EvalError → String
  | invalidNumber v t => "'" ++ v ++ "' is not a valid " ++ t.name
  | unsupportedOperator c t => "operator " ++ c.text ++ " does not apply to " ++ t.name
  | invalidRegex p r => "invalid regular expression '" ++ p ++ "': " ++ r

/-- The error as one of the engine. -/
def toEngine (e : EvalError) : EngineError := .exec e.message

end EvalError

namespace Evaluation

/-- The digits of a hexadecimal number, which may stand behind `0x`. -/
def hexDigits (cs : List Char) : List Char :=
  match Text.stripStart? ['0', 'x'] cs <|> Text.stripStart? ['0', 'X'] cs with
  | some ds => ds
  | none => cs

/-- The integer of the type that a text writes, with any blanks around it. -/
def integer (t : ValueType) (value : String) : Except EvalError Int :=
  let cs := Text.trim value.toList
  let n? :=
    if t.isHex then Number.int128? 16 (String.ofList (hexDigits cs))
    else Number.int128? 10 (String.ofList cs)
  let inRange (n : Int) : Bool :=
    match t.integerRange? with
    | some (lo, hi) => lo ≤ n && n ≤ hi
    | none => true
  match n?.filter inRange with
  | some n => .ok n
  | none => .error (.invalidNumber value t)

/-- The double that a text writes, with any blanks around it. -/
def double (t : ValueType) (value : String) : Except EvalError Float :=
  match (Number.double? (Text.trimmed value)).filter fun x => !x.isNaN with
  | some x => .ok x
  | none => .error (.invalidNumber value t)

/-- An integer as it is stored: hexadecimal integers in lower case and without a sign in front. -/
def integerText (t : ValueType) (n : Int) : String :=
  if t.isHex then String.ofList (Nat.toDigits 16 n.toNat) else toString n

/-- The order of two strings of octets of the same size. -/
def octetOrder : Bytes → Bytes → Ordering
  | a :: as, b :: bs => (compare a b).then (octetOrder as bs)
  | [], [] => .eq
  | [], _ :: _ => .lt
  | _ :: _, [] => .gt

/-- The order of texts: by size, then by octets. -/
def textOrder (a b : String) : Ordering :=
  let (a, b) := (Utf8.bytes a, Utf8.bytes b)
  (compare a.length b.length).then (octetOrder a b)

/-- The order of doubles that are numbers or infinite. -/
def doubleOrder (a b : Float) : Ordering := if a < b then .lt else if b < a then .gt else .eq

/-- The order of two values of a numeric type. -/
def numberOrder (t : ValueType) (a b : String) : Except EvalError Ordering := do
  if t.isFloat then return doubleOrder (← double t a) (← double t b)
  else return compare (← integer t a) (← integer t b)

/-- Whether a comparison by order holds. -/
def holds : Comparison → Ordering → Bool
  | .eq, o => o == .eq
  | .ne, o => o != .eq
  | .gt, o => o == .gt
  | .lt, o => o == .lt
  | .ge, o => o != .lt
  | .le, o => o != .gt
  | _, _ => false

/-- The regular expression that a text writes. -/
def regex (pattern : String) : Except EvalError Regex.Node :=
  match Regex.parse pattern with
  | .ok r => .ok r
  | .error f => .error (.invalidRegex pattern f.message)

end Evaluation
end SlotSql
