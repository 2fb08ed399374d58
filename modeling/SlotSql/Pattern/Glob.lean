import SlotSql.Text.Utf8
/-!
# Glob patterns

Patterns that a scan of the store's keys is filtered by, over octets: a star stands for any string,
a question mark for any octet, brackets for one octet of a class, and a backslash takes the meaning
of the octet behind it away. A pattern is first read into items, then the items are matched.

Results:
* `accepts_one`, `accepts_star`: what an item matches, as an existential over the text.
-/
namespace SlotSql.Glob

/-- What one item of a pattern matches. -/
inductive Item where
  /-- Any string. -/
  | star
  /-- Any octet. -/
  | any
  /-- One octet. -/
  | octet (b : UInt8)
  /-- An octet of the ranges, or of none of them. -/
  | choice (negated : Bool) (ranges : List (UInt8 × UInt8))
  deriving DecidableEq, Repr

/-- The ranges of a class, up to its closing bracket or the end of the pattern, and the rest. -/
def ranges : Bytes → List (UInt8 × UInt8) × Bytes
  | [] => ([], [])
  | a :: r =>
    if a = 0x5D then ([], r)
    else
      match a, r with
      | 0x5C, b :: r => let (rs, rest) := ranges r; ((b, b) :: rs, rest)
      | a, 0x2D :: b :: r =>
        if b = 0x5D then let (rs, rest) := ranges (0x2D :: b :: r); ((a, a) :: rs, rest)
        else let (rs, rest) := ranges r; ((if a ≤ b then (a, b) else (b, a)) :: rs, rest)
      | a, r => let (rs, rest) := ranges r; ((a, a) :: rs, rest)
termination_by bs => bs.length

theorem length_ranges (bs : Bytes) : (ranges bs).2.length ≤ bs.length := by
  fun_induction ranges bs <;> simp_all <;> omega

/-- The class whose octets follow an opening bracket, and the rest behind it. -/
def choice (r : Bytes) : Item × Bytes :=
  if r.head? = some 0x5E then (.choice true (ranges r.tail).1, (ranges r.tail).2)
  else (.choice false (ranges r).1, (ranges r).2)

theorem length_choice (r : Bytes) : (choice r).2.length ≤ r.length := by
  unfold choice
  split
  · exact Nat.le_trans (length_ranges _) (by simp)
  · exact length_ranges r

/-- The items of a pattern. -/
def items : Bytes → List Item
  | [] => []
  | a :: r =>
    if a = 0x2A then .star :: items r
    else if a = 0x3F then .any :: items r
    else if a = 0x5B then (choice r).1 :: items (choice r).2
    else
      match a, r with
      | 0x5C, b :: r => .octet b :: items r
      | a, r => .octet a :: items r
termination_by bs => bs.length
decreasing_by
  all_goals (try simp only [List.length_cons])
  · omega
  · omega
  · have := length_choice r; omega
  · omega
  · omega

/-- Whether an item other than a star matches an octet. -/
def Item.takes (b : UInt8) : Item → Bool
  | .star => false
  | .any => true
  | .octet a => a == b
  | .choice negated rs => (rs.any fun r => r.1 ≤ b && b ≤ r.2) != negated

/-- Whether some end of the text, the text itself and the empty one included, satisfies `p`. -/
def someEnd (p : Bytes → Bool) : Bytes → Bool
  | [] => p []
  | b :: r => p (b :: r) || someEnd p r

/-- Whether the items match the whole text. -/
def accepts : List Item → Bytes → Bool
  | [], t => t.isEmpty
  | .star :: is, t => someEnd (accepts is) t
  | .any :: is, t => match t with
    | [] => false
    | _ :: t => accepts is t
  | .octet a :: is, t => match t with
    | [] => false
    | b :: t => a == b && accepts is t
  | .choice negated rs :: is, t => match t with
    | [] => false
    | b :: t => Item.takes b (.choice negated rs) && accepts is t

/-- Whether a pattern matches a text. -/
def matchesBytes (pattern text : Bytes) : Bool := accepts (items pattern) text

/-- Whether a pattern matches a key. -/
def matchesKey (pattern key : String) : Bool := matchesBytes (Utf8.bytes pattern) (Utf8.bytes key)

theorem someEnd_iff {p : Bytes → Bool} {t : Bytes} :
    someEnd p t = true ↔ ∃ a b, t = a ++ b ∧ p b = true := by
  induction t with
  | nil => simp [someEnd, and_assoc]
  | cons c t ih =>
    rw [someEnd, Bool.or_eq_true, ih]
    constructor
    · rintro (h | ⟨a, b, rfl, hb⟩)
      · exact ⟨[], _, rfl, h⟩
      · exact ⟨c :: a, b, rfl, hb⟩
    · rintro ⟨a, b, h, hb⟩
      cases a with
      | nil => left; simp only [List.nil_append] at h; rwa [h]
      | cons x a => right; injection h with h1 h2; exact ⟨a, b, h2, hb⟩

theorem accepts_star {is : List Item} {t : Bytes} :
    accepts (.star :: is) t = true ↔ ∃ a b, t = a ++ b ∧ accepts is b = true := by
  rw [accepts, someEnd_iff]

theorem accepts_one {i : Item} {is : List Item} {t : Bytes} (h : i ≠ .star) :
    accepts (i :: is) t = true ↔ ∃ b r, t = b :: r ∧ i.takes b = true ∧ accepts is r = true := by
  cases t with
  | nil => cases i <;> simp_all [accepts]
  | cons b r =>
    have : accepts (i :: is) (b :: r) = (i.takes b && accepts is r) := by
      cases i <;> simp_all [accepts, Item.takes]
    rw [this, Bool.and_eq_true]
    constructor
    · rintro ⟨h1, h2⟩; exact ⟨b, r, rfl, h1, h2⟩
    · rintro ⟨_, _, h0, h1, h2⟩; cases h0; exact ⟨h1, h2⟩

/-- The text with a backslash in front of each octet that a pattern would not take literally; a star
is left alone. -/
def escape (s : String) : String :=
  String.ofList (s.toList.flatMap fun c =>
    if c = '?' ∨ c = '[' ∨ c = ']' ∨ c = '\\' then ['\\', c] else [c])

end SlotSql.Glob
