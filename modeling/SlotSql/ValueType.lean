import SlotSql.Number.Integer
/-!
# Column types

The fixed set of types that a column can have, and what each allows: which types are numbers, which
may be part of a row key, the range of the integer types and the length recorded when none is
written.
-/
namespace SlotSql

/-- The type of a column. -/
inductive ValueType where
  /-- Signed integers of 16, 32 and 64 bits. -/
  | sb2 | sb4 | sb8
  /-- Unsigned integers of 16, 32 and 64 bits. -/
  | ub2 | ub4 | ub8
  /-- Unsigned integers of 32 and 64 bits that are stored in hexadecimal. -/
  | ub4x | ub8x
  /-- One character. -/
  | char
  /-- One octet. -/
  | byte
  /-- A text of limited length. -/
  | str
  /-- A double. -/
  | flt64
  /-- A text without limit. -/
  | blob
  /-- A decimal number of limited precision. -/
  | dec
  /-- A day, a time of day, and both. -/
  | date | time | stamp
  /-- A set of texts. -/
  | set
  deriving DecidableEq, Repr

namespace ValueType

/-- All types, in the order of their numbers. -/
def all : List ValueType :=
  [sb2, sb4, sb8, ub2, ub4, ub8, ub4x, ub8x, char, byte, str, flt64, blob, dec, date, time, stamp, set]

/-- The name of a type in a statement. -/
def name : ValueType → String
  | sb2 => "SB2" | sb4 => "SB4" | sb8 => "SB8"
  | ub2 => "UB2" | ub4 => "UB4" | ub8 => "UB8"
  | ub4x => "UB4X" | ub8x => "UB8X"
  | char => "CHAR" | byte => "BYTE" | str => "STR" | flt64 => "FLT64" | blob => "BLOB"
  | dec => "DEC" | date => "DATE" | time => "TIME" | stamp => "STAMP" | set => "SET"

/-- The type of the given name, in upper case. -/
def ofName? (s : String) : Option ValueType := all.find? fun t => t.name == s

/-- The number of a type in a stored field description. -/
def index : ValueType → Nat
  | sb2 => 0 | sb4 => 1 | sb8 => 2 | ub2 => 3 | ub4 => 4 | ub8 => 5 | ub4x => 6 | ub8x => 7
  | char => 8 | byte => 9 | str => 10 | flt64 => 11 | blob => 12 | dec => 13 | date => 14
  | time => 15 | stamp => 16 | set => 17

/-- The type of the given number. -/
def ofIndex? (n : Nat) : Option ValueType := all[n]?

theorem ofIndex?_index (t : ValueType) : ofIndex? t.index = some t := by cases t <;> rfl

theorem index_of_ofIndex? {n : Nat} {t : ValueType} (h : ofIndex? n = some t) : t.index = n := by
  unfold ofIndex? at h
  rcases Nat.lt_or_ge n 18 with hn | hn
  · have : ∀ n : Fin 18, ∀ t, all[n.1]? = some t → t.index = n.1 := by decide
    exact this ⟨n, hn⟩ t h
  · rw [List.getElem?_eq_none (by simpa [all] using hn)] at h; cases h

/-- The range of an integer type. -/
def integerRange? : ValueType → Option (Int × Int)
  | sb2 => some (Number.signedRange 16)
  | sb4 => some (Number.signedRange 32)
  | sb8 => some (Number.signedRange 64)
  | ub2 => some (0, Number.max16)
  | ub4 | ub4x => some (0, Number.max32)
  | ub8 | ub8x => some (0, Number.max64)
  | byte => some (0, 255)
  | _ => none

/-- An integer type, stored in decimal or in hexadecimal. -/
def isInteger (t : ValueType) : Bool := t.integerRange?.isSome

/-- A signed integer type. -/
def isSigned (t : ValueType) : Bool := t == sb2 || t == sb4 || t == sb8

/-- An integer type stored in hexadecimal. -/
def isHex (t : ValueType) : Bool := t == ub4x || t == ub8x

/-- The type of doubles. -/
def isFloat (t : ValueType) : Bool := t == flt64

/-- A type whose values are compared as numbers. -/
def isNumeric (t : ValueType) : Bool := t.isInteger || t.isFloat

/-- The type of sets. -/
def isSet (t : ValueType) : Bool := t == set

/-- A type of days or times. -/
def isTemporal (t : ValueType) : Bool := t == date || t == time || t == stamp

/-- A type that a column of the row key can have. -/
def isKeyType (t : ValueType) : Bool := t != set && t != blob && t != flt64

/-- The length recorded for a column without one. -/
def defaultLength : ValueType → Nat
  | sb2 | ub2 => 2
  | sb4 | ub4 | ub4x => 4
  | sb8 | ub8 | ub8x | flt64 => 8
  | char | byte => 1
  | str | set => 255
  | blob => 0
  | dec => 18
  | date => 10
  | time => 8
  | stamp => 19

end ValueType
end SlotSql
