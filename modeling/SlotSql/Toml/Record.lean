import SlotSql.Toml.Text
import SlotSql.Toml.Value
/-!
# Records in TOML

A record is read from a table by the names of its members, or from an array by their order. A member
that is missing keeps the value it has, and what belongs to no member is passed over. A record is
written with a line for each member.
-/
namespace SlotSql.Toml

/-- A kind of plain values: how they are read and written. -/
structure Form (α : Type) where
  read? : Value → Option α
  write : α → String

namespace Form

/-- A text. -/
def text : Form String where
  read?
    | .text s => some s
    | _ => none
  write := written

/-- A truth value. -/
def boolean : Form Bool where
  read?
    | .boolean b => some b
    | _ => none
  write b := if b then "true" else "false"

/-- A number from zero to `most`. -/
def natural (most : Nat) : Form Nat where
  read?
    | .integer n => if 0 ≤ n ∧ n ≤ most then some n.toNat else none
    | _ => none
  write n := toString n

end Form

/-- A member of a record. -/
structure Member (ρ : Type) where
  key : String
  /-- Puts a value into a record. -/
  read? : Value → ρ → Option ρ
  /-- The value of a record as it is written, if it is. -/
  write? : ρ → Option String

namespace Member

variable {ρ α : Type}

/-- A member that is always written. -/
def plain (key : String) (form : Form α) (get : ρ → α) (set : α → ρ → ρ) : Member ρ where
  key
  read? v r := (form.read? v).map (set · r)
  write? r := some (form.write (get r))

/-- A member that is written if there is a value. -/
def optional (key : String) (form : Form α) (get : ρ → Option α) (set : Option α → ρ → ρ) : Member ρ where
  key
  read? v r := (form.read? v).map fun a => set (some a) r
  write? r := (get r).map form.write

/-- A member that is never written. -/
def unwritten (key : String) (read? : Value → Option α) (set : α → ρ → ρ) : Member ρ where
  key
  read? v r := (read? v).map (set · r)
  write? _ := none

/-- Reads a member from the entries of a table. -/
def readFrom? (m : Member ρ) (es : Entries) (r : ρ) : Option ρ :=
  match es.get? m.key with
  | none => some r
  | some v => m.read? v r

/-- The line of a member. -/
def line? (m : Member ρ) (r : ρ) : Option String :=
  (m.write? r).map fun text => m.key ++ " = " ++ text ++ "\n"

end Member

variable {ρ : Type}

/-- The record that a value makes of the record `start`. A date is a table with no entry of a known
name. -/
def Value.toRecord? (members : List (Member ρ)) (start : ρ) : Value → Option ρ
  | .table _ es => members.foldlM (fun r m => m.readFrom? es r) start
  | .array _ vs => (members.zip vs).foldlM (fun r (m, v) => m.read? v r) start
  | .date => some start
  | _ => none

/-- The values of an array. -/
def Value.toList? : Value → Option (List Value)
  | .array _ vs => some vs
  | _ => none

/-- The lines of a record. -/
def linesOf (members : List (Member ρ)) (r : ρ) : String :=
  String.join (members.filterMap fun m => m.line? r)

end SlotSql.Toml
