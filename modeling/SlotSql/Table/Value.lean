import SlotSql.Calendar
import SlotSql.Evaluation
import SlotSql.Table.Basic
/-!
# Values of columns

A value is checked against its column before it is stored, and brought into one form: integers
without blanks, signs and zeros that are not needed, dates and times with all their digits.
-/
namespace SlotSql

/-- What can be wrong with a value. -/
inductive ValueFault where
  | structural
  | notInteger
  | notNumber
  | notFinite
  | notOneCharacter
  | tooLong (max : Nat)
  | notDecimal
  | manySigns
  | fraction (max : Nat)
  | digits (max : Nat)
  | notDate
  | notTime
  | notStamp
  | memberTooLong (member : String) (max : Nat)
  deriving DecidableEq, Repr

/-- The text of a fault. -/
def ValueFault.message : ValueFault → String
  | structural => "rowkey values cannot contain ':', '\x7b', '\x7d' or '*'"
  | notInteger => "not an integer in range"
  | notNumber => "not a number"
  | notFinite => "not a finite number"
  | notOneCharacter => "expected exactly one character"
  | tooLong n => "longer than " ++ toString n ++ " characters"
  | notDecimal => "not a decimal number"
  | manySigns => "more than one sign"
  | fraction n => "more than " ++ toString n ++ " fractional digits"
  | digits n => "more than " ++ toString n ++ " digits"
  | notDate => "expected YYYY-MM-DD"
  | notTime => "expected HH:MM:SS"
  | notStamp => "expected YYYY-MM-DD HH:MM:SS"
  | memberTooLong m n => "member '" ++ m ++ "' longer than " ++ toString n ++ " characters"

/-- The members that a text lists between commas, without the blanks around them; empty members do
not count. -/
def setMembers (value : String) : List String :=
  let pieces := (Text.split ',' value.toList).map Text.trim
  (pieces.filter fun m => !m.isEmpty).map String.ofList

/-- What is wrong with a decimal of at most `precision` digits, `scale` of them behind the point.
Zeros in front do not count. -/
def decimalFault? (value : String) (precision scale : Nat) : Option ValueFault :=
  let isSign (c : Char) : Bool := c == '+' || c == '-'
  let signs := value.toList.takeWhile isSign
  let digits := value.toList.dropWhile isSign
  let (whole, fraction, pointed) := match Text.cut? ['.'] digits with
    | some (a, b) => (a, b, true)
    | none => (digits, [], false)
  if whole.isEmpty || !whole.all Char.isDigit || !fraction.all Char.isDigit ||
      (pointed && fraction.isEmpty) then some .notDecimal
  else if 1 < signs.length then some .manySigns
  else if scale < fraction.length then some (.fraction scale)
  else if precision < (whole.dropWhile (· == '0')).length + fraction.length then
    some (.digits precision)
  else none

namespace Field

/-- The value, unless something is wrong with it. -/
def unlessFault (value : String) : Option ValueFault → Except ValueFault String
  | none => .ok value
  | some f => .error f

/-- The form of a value in which a column stores it, whatever the place of the column in the row
key. -/
def stored (f : Field) (value : String) : Except ValueFault String :=
  if f.type.isInteger then
    match Evaluation.integer f.type value with
    | .ok n => .ok (Evaluation.integerText f.type n)
    | .error _ => .error .notInteger
  else
    match f.type with
    | .flt64 =>
      match Evaluation.double f.type value with
      | .error _ => .error .notNumber
      | .ok x => if x.isInf then .error .notFinite else .ok (Text.trimmed value)
    | .char => if value.length = 1 then .ok value else .error .notOneCharacter
    | .str => if value.length ≤ f.length then .ok value else .error (.tooLong f.length)
    | .dec => unlessFault value (decimalFault? value f.length f.scale)
    | .date => ((Calendar.Date.read? value).map Calendar.Date.text).elim (.error .notDate) .ok
    | .time => ((Calendar.Clock.read? value).map Calendar.Clock.text).elim (.error .notTime) .ok
    | .stamp => ((Calendar.Moment.read? value).map Calendar.Moment.text).elim (.error .notStamp) .ok
    | .set =>
      match (setMembers value).find? fun m => f.length < m.length with
      | some m => .error (.memberTooLong m f.length)
      | none => .ok value
    | _ => .ok value

theorem stored_date {f : Field} (h : f.type = .date) (value : String) : f.stored value =
    ((Calendar.Date.read? value).map Calendar.Date.text).elim (.error .notDate) .ok := by
  unfold stored
  rw [h]
  rfl

theorem stored_time {f : Field} (h : f.type = .time) (value : String) : f.stored value =
    ((Calendar.Clock.read? value).map Calendar.Clock.text).elim (.error .notTime) .ok := by
  unfold stored
  rw [h]
  rfl

theorem stored_stamp {f : Field} (h : f.type = .stamp) (value : String) : f.stored value =
    ((Calendar.Moment.read? value).map Calendar.Moment.text).elim (.error .notStamp) .ok := by
  unfold stored
  rw [h]
  rfl

/-- The form of a value in which a column stores it. -/
def normalize? (f : Field) (value : String) : Except ValueFault String :=
  if f.isKey && Key.holdsStructural value then .error .structural else f.stored value

/-- The form of a value in which a column stores it, or an error of the engine. -/
def normalize (f : Field) (value : String) : Except EngineError String :=
  match f.normalize? value with
  | .ok v => .ok v
  | .error why =>
    .error (.schema ("value '" ++ value ++ "' is not valid for " ++ f.type.name ++ " field '" ++
      f.name ++ "': " ++ why.message))

end Field
end SlotSql
