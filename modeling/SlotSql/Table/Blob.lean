import SlotSql.Error
import SlotSql.Table.Basic
import SlotSql.Text.Utf8
/-!
# Stored columns

The columns of a table are stored as a string of octets: their number, then each column with its
name, the number of its type, its sizes, its ordinal, whether it can be absent, and its comment.
Numbers are little-endian, of 32 bits, or of 64 bits where they count columns or octets.

Results:
* `natural?_number`: a number is read back, and what follows it is left.
-/
namespace SlotSql.Blob

/-- The `width` octets of a number, the lowest first. -/
def number : (width n : Nat) → Bytes
  | 0, _ => []
  | w + 1, n => UInt8.ofNat n :: number w (n / 256)

/-- The number of the first `width` octets, and the rest. -/
def natural? : (width : Nat) → Bytes → Option (Nat × Bytes)
  | 0, bs => some (0, bs)
  | _ + 1, [] => none
  | w + 1, b :: bs => (natural? w bs).map fun (n, r) => (b.toNat + 256 * n, r)

theorem natural?_number {w n : Nat} (h : n < Nat.pow 256 w) (r : Bytes) :
    natural? w (number w n ++ r) = some (n, r) := by
  induction w generalizing n with
  | zero =>
    have : n = 0 := Nat.lt_one_iff.1 h
    simp [natural?, number, this]
  | succ w ih =>
    have : n / 256 < Nat.pow 256 w := Nat.div_lt_of_lt_mul (Nat.mul_comm .. ▸ h)
    simp only [number, List.cons_append, natural?, ih this, Option.map_some]
    simp only [UInt8.toNat_ofNat', Nat.reducePow, Option.some.injEq, Prod.mk.injEq, and_true]
    omega

/-- A text behind the number of its octets. -/
def text (s : String) : Bytes :=
  let bs := Utf8.bytes s
  number 8 bs.length ++ bs

/-- A text, and the rest. -/
def text? (bs : Bytes) : Option (String × Bytes) := do
  let (n, bs) ← natural? 8 bs
  if bs.length < n then none
  else return (← Utf8.decode? (bs.take n), bs.drop n)

/-- A truth value, and the rest. -/
def flag? : Bytes → Option (Bool × Bytes)
  | 0 :: bs => some (false, bs)
  | 1 :: bs => some (true, bs)
  | _ => none

/-- The octets of a column. -/
def field (f : Field) : Bytes :=
  text f.name ++ number 4 f.type.index ++ number 4 f.length ++ number 4 f.scale ++
    number 4 f.ordinal ++ [if f.nullable then 1 else 0] ++ text f.comment

/-- A column, and the rest. -/
def field? (bs : Bytes) : Option (Field × Bytes) := do
  let (name, bs) ← text? bs
  let (index, bs) ← natural? 4 bs
  let type ← ValueType.ofIndex? index
  let (length, bs) ← natural? 4 bs
  let (scale, bs) ← natural? 4 bs
  let (ordinal, bs) ← natural? 4 bs
  let (nullable, bs) ← flag? bs
  let (comment, bs) ← text? bs
  return (⟨name, type, length, scale, ordinal, nullable, comment⟩, bs)

/-- A number of columns, and the rest. -/
def fieldsOf? : (count : Nat) → Bytes → Option (List Field × Bytes)
  | 0, bs => some ([], bs)
  | n + 1, bs => do
    let (f, bs) ← field? bs
    let (fs, bs) ← fieldsOf? n bs
    return (f :: fs, bs)

/-- The octets of a list of columns. -/
def encode (fs : List Field) : Bytes := number 8 fs.length ++ fs.flatMap field

/-- The list of columns in front of a string of octets. -/
def decode? (bs : Bytes) : Option (List Field) := do
  let (n, bs) ← natural? 8 bs
  return (← fieldsOf? n bs).1

/-- The list of columns in front of a string of octets, or an error of the engine. -/
def decode (bs : Bytes) : Except EngineError (List Field) :=
  match decode? bs with
  | some fs => .ok fs
  | none => .error (.schema "corrupt field descriptor blob: unreadable")

end SlotSql.Blob
