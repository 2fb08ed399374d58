import Mathlib.Algebra.Group.Nat.Even
import Mathlib.Data.Nat.Find
import SlotSql.Proofs.Statement.Clause
import SlotSql.Proofs.Statement.Scanners
/-!
# Cuts outside quotes

A text is cut at a pattern, or at the parenthesis that closes a group, by a scan that keeps count of quotes and of open
parentheses from the place on where the text begins. What the scan finds can be said without it: quotes and parentheses are
counted in the text in front of a place, and the cut is at the first place with the right counts.

Results:
* `FirstCut`: cuts at the first separator behind a text of some kind.
* `cutUnquoted?_firstCut`, `closing?_firstCut`: both scans find the first cut.
* `splitUnquoted_closed`, `splitUnquoted_free`: the quotes of the parts of a text, and what they do not hold.
* `splitParens_eq_ok`, `splitParens_isOk`: groups in front of a text.
* `splitting_exact`: the parts of a text, in characters and in octets.
-/
namespace SlotSql.Excerpt

open Text

variable {P Q : List Char → Prop} {sep pattern cs a b r : List Char} {c : Char} {q : Bool} {d n : Nat}

/-! ## First cuts -/

/-- A text is cut at the first separator that stands behind a text of some kind. -/
structure FirstCut (P : List Char → Prop) (sep cs a b : List Char) : Prop where
  cut : cs = a ++ sep ++ b
  here : P a
  first : ∀ x y, cs = x ++ sep ++ y → P x → a.length ≤ x.length

namespace FirstCut

/-- A text that can be cut has a first cut. -/
theorem exists_of (h : ∃ a b, cs = a ++ sep ++ b ∧ P a) : ∃ a b, FirstCut P sep cs a b := by
  classical
  have hlen : ∃ n a b, cs = a ++ sep ++ b ∧ P a ∧ a.length = n := by
    obtain ⟨a, b, hcut, ha⟩ := h
    exact ⟨a.length, a, b, hcut, ha, rfl⟩
  obtain ⟨a, b, hcut, ha, hn⟩ := Nat.find_spec hlen
  refine ⟨a, b, hcut, ha, fun x y hx hP => ?_⟩
  rw [hn]
  exact Nat.find_min' hlen ⟨x, y, hx, hP, rfl⟩

/-- The first cut is in front. -/
theorem front_iff (h : P []) : FirstCut P sep (sep ++ r) a b ↔ a = [] ∧ b = r := by
  constructor
  · rintro ⟨hcut, -, hfirst⟩
    have ha : a = [] := List.length_eq_zero_iff.1 (Nat.le_zero.1 (hfirst [] r rfl h))
    subst ha
    exact ⟨rfl, (List.append_cancel_left hcut).symm⟩
  · rintro ⟨rfl, rfl⟩
    exact ⟨rfl, h, fun _ _ _ _ => Nat.zero_le _⟩

/-- The first cut is further back. -/
theorem cons_iff (hP : ∀ x, P (c :: x) ↔ Q x) (h : P [] → ¬ sep <+: c :: cs) :
    FirstCut P sep (c :: cs) a b ↔ ∃ x, a = c :: x ∧ FirstCut Q sep cs x b := by
  have hfront {x y : List Char} (hcut : c :: cs = x ++ sep ++ y) (hx : P x) : ∃ z, x = c :: z ∧ cs = z ++ sep ++ y := by
    cases x with
    | nil => exact absurd ⟨y, hcut.symm⟩ (h hx)
    | cons z x =>
      cases hcut
      exact ⟨x, rfl, rfl⟩
  constructor
  · rintro ⟨hcut, ha, hfirst⟩
    obtain ⟨x, rfl, hx⟩ := hfront hcut ha
    refine ⟨x, rfl, hx, (hP x).1 ha, fun y z hy hQ => ?_⟩
    have hle := hfirst (c :: y) z (by rw [hy]; rfl) ((hP y).2 hQ)
    exact Nat.le_of_succ_le_succ hle
  · rintro ⟨x, rfl, hcut, hx, hfirst⟩
    refine ⟨by rw [hcut]; rfl, (hP x).2 hx, fun y z hy hy' => ?_⟩
    obtain ⟨y, rfl, hcut'⟩ := hfront hy hy'
    exact Nat.succ_le_succ (hfirst y z hcut' ((hP y).1 hy'))

end FirstCut

/-! ## Patterns -/

theorem behind_cons (q : Bool) (c : Char) (cs : List Char) :
    behind q (c :: cs) = behind (if c = quote then !q else q) cs := rfl

/-- A place stands outside quotes if the number of quotes in front of it is even. -/
theorem behind_eq_false_iff : behind q cs = false ↔ Even (cs.count quote + q.toNat) := by
  induction cs generalizing q with
  | nil => cases q <;> simp [behind]
  | cons c cs ih =>
    rw [behind_cons, ih]
    by_cases hc : c = quote
    · subst hc
      rw [if_pos rfl, List.count_cons_self]
      cases q <;> simp [Nat.even_add_one]
    · rw [if_neg hc, List.count_cons_of_ne hc]

/-- A text holds a pattern outside its quotes. -/
def HoldsUnquoted (pattern cs : List Char) : Prop := ∃ a b, cs = a ++ pattern ++ b ∧ Even (a.count quote)

/-- A cut is at the first pattern outside quotes. -/
theorem cutUnquoted?_firstCut (hp : pattern ≠ []) (hq : quote ∉ pattern) :
    cutUnquoted? pattern q cs = some (a, b) ↔ FirstCut (fun x => behind q x = false) pattern cs a b := by
  induction cs generalizing q a with
  | nil =>
    refine iff_of_false (by simp [cutUnquoted?]) fun h => hp ?_
    have hnil := h.cut
    simp only [List.nil_eq, List.append_eq_nil_iff] at hnil
    exact hnil.1.2
  | cons c cs ih =>
    -- the cut is further back, behind the character
    have hback {q' : Bool} (hbehind : ∀ x, behind q (c :: x) = behind q' x) (h : q = false → ¬ pattern <+: c :: cs) :
        ((cutUnquoted? pattern q' cs).map fun x => (c :: x.1, x.2)) = some (a, b) ↔
          FirstCut (fun x => behind q x = false) pattern (c :: cs) a b := by
      rw [FirstCut.cons_iff (Q := fun x => behind q' x = false) (fun x => by rw [hbehind]) h, Option.map_eq_some_iff]
      constructor
      · rintro ⟨⟨x, y⟩, hcut, he⟩
        cases he
        exact ⟨x, rfl, ih.1 hcut⟩
      · rintro ⟨x, rfl, hcut⟩
        exact ⟨(x, b), ih.2 hcut, rfl⟩
    rw [cutUnquoted?]
    by_cases hc : c = quote
    · rw [if_pos hc]
      refine hback (fun x => by rw [behind_cons, if_pos hc]) ?_
      rintro - ⟨t, ht⟩
      obtain ⟨p, ps, rfl⟩ := List.exists_cons_of_ne_nil hp
      cases ht
      exact hq (hc ▸ List.mem_cons_self)
    · rw [if_neg hc]
      have hsame (x : List Char) : behind q (c :: x) = behind q x := by rw [behind_cons, if_neg hc]
      cases q with
      | true => exact hback hsame fun h => absurd h (by decide)
      | false =>
        cases hstrip : stripStart? pattern (c :: cs) with
        | some r =>
          rw [stripStart?_eq_some.1 hstrip, FirstCut.front_iff (P := fun x => behind false x = false) rfl]
          simp [eq_comm]
        | none =>
          refine hback hsame ?_
          rintro - ⟨t, ht⟩
          rw [stripStart?_eq_some.2 ht.symm] at hstrip
          cases hstrip

theorem cutUnquoted?_eq_none_iff (hp : pattern ≠ []) (hq : quote ∉ pattern) :
    cutUnquoted? pattern false cs = none ↔ ¬ HoldsUnquoted pattern cs := by
  have heven (x : List Char) : behind false x = false ↔ Even (x.count quote) := behind_eq_false_iff
  constructor
  · rintro h ⟨a, b, hcut, ha⟩
    obtain ⟨x, y, hfirst⟩ := FirstCut.exists_of (P := fun x => behind false x = false) ⟨a, b, hcut, (heven a).2 ha⟩
    rw [(cutUnquoted?_firstCut hp hq).2 hfirst] at h
    cases h
  · intro h
    cases hcut : cutUnquoted? pattern false cs with
    | none => rfl
    | some parts =>
      have hfirst := (cutUnquoted?_firstCut (a := parts.1) (b := parts.2) hp hq).1 hcut
      exact absurd ⟨_, _, hfirst.cut, (heven _).1 hfirst.here⟩ h

variable {e : Excerpt} {p : String}

/-- Every part but the last closes its quotes. -/
theorem splitUnquoted_closed (hp : p ≠ "") (hq : quote ∉ p.toList) :
    ∀ x ∈ (e.splitUnquoted p).dropLast, Even (x.chars.count quote) := by
  fun_induction splitUnquoted e p with
  | case1 => exact fun x hx => absurd hx List.not_mem_nil
  | case2 _ _ _ _ he => exact absurd he hp
  | case3 e a b hcut _ ih =>
    have hfirst := (cutUnquoted?_firstCut (mt String.toList_eq_nil_iff.1 hp) hq).1 hcut
    rw [List.dropLast_cons_of_ne_nil (splitUnquoted_ne_nil _ p)]
    exact List.forall_mem_cons.2 ⟨behind_eq_false_iff.1 hfirst.here, ih⟩

/-- No part holds the pattern outside its quotes. -/
theorem splitUnquoted_free (hp : p ≠ "") (hq : quote ∉ p.toList) :
    ∀ x ∈ e.splitUnquoted p, ¬ HoldsUnquoted p.toList x.chars := by
  have hne := mt String.toList_eq_nil_iff.1 hp
  fun_induction splitUnquoted e p with
  | case1 e hcut =>
    intro x hx
    rw [List.mem_singleton.1 hx]
    exact (cutUnquoted?_eq_none_iff hne hq).1 hcut
  | case2 _ _ _ _ he => exact absurd he hp
  | case3 e a b hcut _ ih =>
    have hfirst := (cutUnquoted?_firstCut hne hq).1 hcut
    refine List.forall_mem_cons.2 ⟨?_, ih⟩
    -- in the part in front, the cut would have been earlier
    rintro ⟨x, y, hx, heven⟩
    have hle := hfirst.first x (y ++ p.toList ++ b) (by rw [hfirst.cut]; simp [show a = _ from hx])
      (behind_eq_false_iff.2 heven)
    have hlen := congrArg List.length (show a = _ from hx)
    have hpos := List.length_pos_of_ne_nil hne
    simp only [List.length_append] at hlen
    omega

/-! ## Groups -/

/-- The characters of a text that stand outside quotes, without the quotes. -/
def outside (q : Bool) : List Char → List Char
  | [] => []
  | c :: cs =>
    if c = quote then outside (!q) cs
    else if q then outside q cs
    else c :: outside q cs

/-- No quote is open behind a text, and `d` more parentheses close in it than open. -/
def Closes (q : Bool) (d : Nat) (cs : List Char) : Prop :=
  behind q cs = false ∧ (outside q cs).count ')' = (outside q cs).count '(' + d

/-- The parenthesis that closes a group is the first outside quotes behind which there are as many that close as there are
that open. -/
theorem closing?_firstCut :
    closing? q (d + 1) cs = some n ↔ ∃ a b, FirstCut (Closes q d) [')'] cs a b ∧ a.length = n := by
  induction cs generalizing q d n with
  | nil =>
    refine iff_of_false (by simp [closing?]) ?_
    rintro ⟨a, b, hcut, -⟩
    simpa using hcut.cut
  | cons c cs ih =>
    -- the group is closed further back, behind the character
    have hback {q' : Bool} {d' : Nat} (hcloses : ∀ x, Closes q d (c :: x) ↔ Closes q' d' x) (h : c = ')' → ¬ Closes q d []) :
        (closing? q' (d' + 1) cs).map (· + 1) = some n ↔
          ∃ a b, FirstCut (Closes q d) [')'] (c :: cs) a b ∧ a.length = n := by
      have hfront : Closes q d [] → ¬ [')'] <+: c :: cs := by
        rintro hnil ⟨t, ht⟩
        exact h (List.cons.inj ht).1.symm hnil
      simp only [FirstCut.cons_iff hcloses hfront, Option.map_eq_some_iff, ih]
      constructor
      · rintro ⟨k, ⟨a, b, hcut, rfl⟩, rfl⟩
        exact ⟨c :: a, b, ⟨a, rfl, hcut⟩, rfl⟩
      · rintro ⟨a, b, ⟨x, rfl, hcut⟩, rfl⟩
        exact ⟨x.length, ⟨x, b, hcut, rfl⟩, rfl⟩
    rw [closing?]
    by_cases hquote : c = quote
    · rw [if_pos hquote]
      refine hback (fun x => ?_) fun hc => absurd (hquote.symm.trans hc) (by decide)
      rw [Closes, behind_cons, outside, if_pos hquote, if_pos hquote, Closes]
    have hbehind (x : List Char) : behind q (c :: x) = behind q x := by rw [behind_cons, if_neg hquote]
    rw [if_neg hquote]
    cases q with
    | true =>
      refine hback (fun x => ?_) fun _ hnil => absurd hnil.1 (by decide)
      rw [Closes, hbehind, outside, if_neg hquote, if_pos rfl, Closes]
    | false =>
      have houtside (x : List Char) : outside false (c :: x) = c :: outside false x := by
        rw [outside, if_neg hquote, if_neg Bool.false_ne_true]
      have hcloses (x : List Char) : Closes false d (c :: x) ↔
          behind false x = false ∧ (c :: outside false x).count ')' = (c :: outside false x).count '(' + d := by
        rw [Closes, hbehind, houtside]
      rw [if_neg Bool.false_ne_true]
      by_cases hopen : c = '('
      · subst hopen
        rw [if_pos rfl]
        refine hback (fun x => ?_) fun hc => absurd hc (by decide)
        rw [hcloses, Closes, List.count_cons_self, List.count_cons_of_ne (by decide), Nat.add_right_comm, Nat.add_assoc]
      rw [if_neg hopen]
      by_cases hclose : c = ')'
      · subst hclose
        rw [if_pos rfl]
        cases d with
        | zero =>
          have hfront (a b : List Char) : FirstCut (Closes false 0) [')'] ([')'] ++ cs) a b ↔ a = [] ∧ b = cs :=
            FirstCut.front_iff ⟨rfl, rfl⟩
          simp only [List.singleton_append] at hfront
          simp [hfront, eq_comm]
        | succ d =>
          rw [if_neg (by omega)]
          refine hback (fun x => ?_) fun _ hnil => absurd hnil.2 (by simp [outside])
          rw [hcloses, Closes, List.count_cons_self, List.count_cons_of_ne (by decide), ← Nat.add_assoc,
            Nat.add_right_cancel_iff]
      · rw [if_neg hclose]
        refine hback (fun x => ?_) fun hc => absurd hc hclose
        rw [hcloses, Closes, List.count_cons_of_ne hopen, List.count_cons_of_ne hclose]

/-- No quote is open behind a text, and as many parentheses close in it as open. So one that closes behind it closes one that
opens in front. -/
def Balanced (cs : List Char) : Prop :=
  Even (cs.count quote) ∧ (outside false cs).count ')' = (outside false cs).count '('

theorem closes_zero : Closes false 0 = Balanced :=
  funext fun _ => propext (and_congr_left' behind_eq_false_iff)

/-- What a group in front of a text holds, and what stands behind the group. -/
theorem group_excerpts (h : e.chars = '(' :: (a ++ ')' :: b)) :
    (e.take (a.length + 1)).drop 1 = ⟨e.start + 1, a⟩ ∧ e.drop (a.length + 1 + 1) = ⟨e.start + a.length + 2, b⟩ := by
  simp [take, drop, h, Nat.add_assoc]

/-- A group in front of a text ends at the first parenthesis that closes it. -/
theorem splitParens_eq_ok {i r : Excerpt} : e.splitParens = .ok (i, r) ↔
    ∃ a b, e.trim.chars = '(' :: (a ++ ')' :: b) ∧ FirstCut Balanced [')'] (a ++ ')' :: b) a b ∧
      i = (Excerpt.mk (e.trim.start + 1) a).trim ∧ r = (Excerpt.mk (e.trim.start + a.length + 2) b).trim := by
  constructor
  · intro h
    rw [splitParens] at h
    split at h
    · next hhead =>
      split at h
      · next n hn =>
        cases h
        obtain ⟨cs, hcs⟩ := List.head?_eq_some_iff.1 hhead
        rw [hcs, closing?_open] at hn
        obtain ⟨m, hm, rfl⟩ := Option.map_eq_some_iff.1 hn
        obtain ⟨a, b, hcut, rfl⟩ := closing?_firstCut.1 hm
        have hsplit : cs = a ++ ')' :: b := hcut.cut.trans (List.append_assoc ..)
        have hchars : e.trim.chars = '(' :: (a ++ ')' :: b) := hcs.trans (congrArg _ hsplit)
        obtain ⟨hinside, hbehind⟩ := group_excerpts hchars
        rw [← closes_zero]
        exact ⟨a, b, hchars, hsplit ▸ hcut, congrArg trim hinside, congrArg trim hbehind⟩
      · cases h
    · cases h
  · rintro ⟨a, b, hchars, hcut, rfl, rfl⟩
    rw [← closes_zero] at hcut
    have hclosing : closing? false 0 e.trim.chars = some (a.length + 1) := by
      rw [hchars, closing?_open, Option.map_eq_some_iff]
      exact ⟨a.length, closing?_firstCut.2 ⟨a, b, hcut, rfl⟩, rfl⟩
    obtain ⟨hinside, hbehind⟩ := group_excerpts hchars
    rw [splitParens, if_pos (by rw [hchars]; rfl), hclosing]
    simp only [hinside, hbehind]

/-- There is a group in front of a text if some parenthesis closes it. -/
theorem splitParens_isOk : (∃ parts, e.splitParens = .ok parts) ↔
    ∃ a b, e.trim.chars = '(' :: (a ++ ')' :: b) ∧ Balanced a := by
  constructor
  · rintro ⟨⟨i, r⟩, h⟩
    obtain ⟨a, b, hchars, hcut, -⟩ := splitParens_eq_ok.1 h
    exact ⟨a, b, hchars, hcut.here⟩
  · rintro ⟨a, b, hchars, ha⟩
    have hsome : ∃ x y, a ++ ')' :: b = x ++ [')'] ++ y ∧ Balanced x := ⟨a, b, List.append_cons a ')' b, ha⟩
    obtain ⟨x, y, hcut⟩ := FirstCut.exists_of hsome
    have hsplit : a ++ ')' :: b = x ++ ')' :: y := hcut.cut.trans (List.append_assoc ..)
    exact ⟨_, splitParens_eq_ok.2 ⟨x, y, hchars.trans (congrArg _ hsplit), hsplit ▸ hcut, rfl, rfl⟩⟩

/-! ## Octets -/

open Utf8

/-- The octets of texts with a pattern between them. -/
theorem encode_join (ps : List (List Char)) :
    encode (join pattern ps) = (encode pattern).intercalate (ps.map encode) := by
  induction ps with
  | nil => rfl
  | cons x ps ih =>
    cases ps with
    | nil => simp [join]
    | cons y ps =>
      rw [join, encode_append, encode_append, ih, List.map_cons, List.map_cons, List.map_cons, List.intercalate_cons_cons]

/-- Cuts outside quotes are exact, for every excerpt of a text. The scans of its octets come to an end without ever reading
outside of it, cutting a character or counting below zero, and find what the scans of its characters find. The octets of the
parts, with those of the pattern between them, are the octets of the excerpt; every part but the last closes its quotes, and
none holds the pattern outside of them. A group in front is found if some parenthesis closes it, and it ends at the first
that does. -/
theorem splitting_exact {w : List Char} (h : e.In ⟨0, w⟩) :
    (∀ pattern : String, pattern ≠ "" → quote ∉ pattern.toList →
      (Extent.of w e).splitUnquoted? (encode w) pattern = some ((e.splitUnquoted pattern).map (Extent.of w)) ∧
      (∀ x ∈ e.splitUnquoted pattern, (Extent.of w x).octets? (encode w) = some (encode x.chars)) ∧
      (bytes pattern).intercalate ((e.splitUnquoted pattern).map fun x => encode x.chars) = encode e.chars ∧
      (∀ x ∈ (e.splitUnquoted pattern).dropLast, Even (x.chars.count quote)) ∧
      ∀ x ∈ e.splitUnquoted pattern, ¬ HoldsUnquoted pattern.toList x.chars) ∧
    (Extent.of w e).splitParens? (encode w) =
      some (e.splitParens.map fun (i, r) => (Extent.of w i, Extent.of w r)) ∧
    ((∃ parts, e.splitParens = .ok parts) ↔ ∃ a b, e.trim.chars = '(' :: (a ++ ')' :: b) ∧ Balanced a) ∧
    ∀ i r, e.splitParens = .ok (i, r) → ∃ a b, e.trim.chars = '(' :: (a ++ ')' :: b) ∧
      FirstCut Balanced [')'] (a ++ ')' :: b) a b ∧ i = (Excerpt.mk (e.trim.start + 1) a).trim ∧
      r = (Excerpt.mk (e.trim.start + a.length + 2) b).trim := by
  refine ⟨fun pattern hp hq => ⟨Extent.splitUnquoted?_of h hp, fun x hx => ?_, ?_, splitUnquoted_closed hp hq,
    splitUnquoted_free hp hq⟩, Extent.splitParens?_of h, splitParens_isOk, fun _ _ => splitParens_eq_ok.1⟩
  · exact Extent.octets?_of ((splitUnquoted_in e pattern x hx).trans h)
  · rw [← join_splitUnquoted e pattern, encode_join, List.map_map]
    rfl

/-- A group that holds a literal with a pattern and a parenthesis in it. -/
def quotedGroup : String := "(a = 'x ∧ )' ∧ b) c"

theorem splitting_exact_quoted :
    (bytes " ∧ ").intercalate (((ofText quotedGroup).splitUnquoted " ∧ ").map fun x => encode x.chars) = bytes quotedGroup ∧
    (∀ x ∈ (ofText quotedGroup).splitUnquoted " ∧ ", ¬ HoldsUnquoted " ∧ ".toList x.chars) ∧
    ∃ parts, (ofText quotedGroup).splitParens = .ok parts := by
  have hin : (ofText quotedGroup).In ⟨0, quotedGroup.toList⟩ := .refl _
  obtain ⟨hsplit, -, hgroup, -⟩ := splitting_exact hin
  obtain ⟨-, -, hjoin, -, hfree⟩ := hsplit " ∧ " (by decide) (by decide)
  exact ⟨hjoin, hfree, hgroup.2 ⟨"a = 'x ∧ )' ∧ b".toList, " c".toList, by decide, by decide, by decide⟩⟩

example : (ofText quotedGroup).splitUnquoted " ∧ " = [⟨0, "(a = 'x ∧ )'".toList⟩, ⟨15, "b) c".toList⟩] := by
  decide +kernel

end SlotSql.Excerpt
