/-!
# UTF-8

Bytes are lists of octets. `pieces` reads them as characters and marks what is no character: the
longest beginning of a well-formed sequence counts as one broken piece, any other octet as one of
its own. Strict and forgiving decoding are two views of the pieces.
-/
namespace SlotSql

/-- A string of octets. -/
abbrev Bytes := List UInt8

namespace Utf8

/-- The octets of a text. -/
def encode (cs : List Char) : Bytes := cs.flatMap String.utf8EncodeChar

/-- The octets of a string. -/
def bytes (s : String) : Bytes := encode s.toList

/-- The number of octets of a text. -/
def size : List Char → Nat
  | [] => 0
  | c :: cs => c.utf8Size + size cs

/-- A continuation octet in the given range. -/
def within (lo hi : UInt8) (b : UInt8) : Bool := lo ≤ b && b ≤ hi

/-- The range of the octet after a first octet of a longer sequence, and how many continuation
octets follow in all. -/
def shape? (a : UInt8) : Option (UInt8 × UInt8 × Nat) :=
  if within 0xC2 0xDF a then some (0x80, 0xBF, 1)
  else if a == 0xE0 then some (0xA0, 0xBF, 2)
  else if a == 0xED then some (0x80, 0x9F, 2)
  else if within 0xE1 0xEF a then some (0x80, 0xBF, 2)
  else if a == 0xF0 then some (0x90, 0xBF, 3)
  else if within 0xF1 0xF3 a then some (0x80, 0xBF, 3)
  else if a == 0xF4 then some (0x80, 0x8F, 3)
  else none

/-- The number behind a sequence of continuation octets. -/
def value (lead : Nat) (tail : Bytes) : Nat :=
  tail.foldl (fun n b => n * 64 + (b.toNat - 0x80)) lead

/-- The character that starts with octet `a`, or none if it is broken, and how many of the octets
`r` behind `a` belong to the piece. -/
def head (a : UInt8) (r : Bytes) : Option Char × Nat :=
  if a < 0x80 then (some (Char.ofNat a.toNat), 0)
  else
    match shape? a with
    | none => (none, 0)
    | some (lo, hi, n) =>
      let tail := match r with
        | [] => []
        | b :: r => if within lo hi b then b :: (r.take (n - 1)).takeWhile (within 0x80 0xBF) else []
      if tail.length = n then
        let lead := if n = 1 then a.toNat - 0xC0 else if n = 2 then a.toNat - 0xE0 else a.toNat - 0xF0
        (some (Char.ofNat (value lead tail)), n)
      else (none, tail.length)

/-- The characters and broken pieces of a string of octets, in order. -/
def pieces : Bytes → List (Option Char)
  | [] => []
  | a :: r =>
    let h := head a r
    h.1 :: pieces (r.drop h.2)
termination_by bs => bs.length
decreasing_by simp only [List.length_drop, List.length_cons]; omega

/-- The text that the octets encode, if they are well-formed. -/
def decode? (bs : Bytes) : Option String := ((pieces bs).mapM id).map String.ofList

/-- The text that the octets encode, with a replacement character for each broken piece. -/
def decodeLossy (bs : Bytes) : String :=
  String.ofList ((pieces bs).map (·.getD (Char.ofNat 0xFFFD)))

end Utf8
end SlotSql
