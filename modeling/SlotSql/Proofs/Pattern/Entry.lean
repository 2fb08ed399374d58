import SlotSql.Proofs.Pattern.Glob
/-!
# Patterns of catalog entries

The pattern of catalog entries begins with the name of the system tablespace as it is, not escaped. A question mark in
the name matches itself, and so does a bracket that closes no class. But a bracket that opens a class and a backslash
take up more octets of the pattern than of a key, so that the colons behind the name come too early for every entry.

Results:
* `items_colon`: how many octets the items in front of a colon take up.
* `matchesBytes_colon`: a text before a colon matches itself just when it holds no opening bracket and no backslash.
* `matchesKey_system`: so an entry matches the pattern of all entries, or of those of its tablespace, just then.
-/
namespace SlotSql.Glob

open Utf8

variable {is : List Item} {bs p r t : Bytes}

/-! ## Items in front of a colon -/

/-- Items without a star match as many octets as they are. -/
theorem length_of_accepts (h : ∀ i ∈ is, i ≠ .star) (ha : accepts is t = true) : t.length = is.length := by
  induction is generalizing t with
  | nil => exact congrArg List.length (List.isEmpty_iff.1 ha)
  | cons i is ih =>
    obtain ⟨b, r, rfl, -, hr⟩ := (accepts_one (h i List.mem_cons_self)).1 ha
    rw [List.length_cons, List.length_cons, ih (fun j hj => h j (List.mem_cons_of_mem _ hj)) hr]

/-- Ranges end with the pattern or at a bracket. -/
theorem ranges_rest (bs : Bytes) : (ranges bs).2 = [] ∨ 0x5D :: (ranges bs).2 <:+ bs := by
  fun_induction ranges bs with
  | case1 => exact .inl rfl
  | case2 r => exact .inr (List.suffix_refl _)
  | case3 b r rs rest hr _ ih => 
    rw [hr] at ih
    exact ih.imp_right fun h => h.trans (List.suffix_append [0x5C, b] r)
  | case4 a r _ rs rest _ hr ih =>
    rw [hr] at ih
    exact ih.imp_right fun h => h.trans (List.suffix_cons a _)
  | case5 a b r _ _ rs rest hr _ ih =>
    rw [hr] at ih
    exact ih.imp_right fun h => h.trans (List.suffix_append [a, 0x2D, b] r)
  | case6 a r _ _ rs rest hr _ ih =>
    rw [hr] at ih
    exact ih.imp_right fun h => h.trans (List.suffix_cons a r)

/-- So does a class. -/
theorem choice_rest (bs : Bytes) : (choice bs).2 = [] ∨ 0x5D :: (choice bs).2 <:+ bs := by
  unfold choice
  split
  · exact (ranges_rest bs.tail).imp_right fun h => h.trans (List.tail_suffix bs)
  · exact ranges_rest bs

theorem choice_ne_star (bs : Bytes) : (choice bs).1 ≠ .star := by
  unfold choice
  split <;> rintro ⟨⟩

theorem items_octet (b : UInt8) (h : b ≠ 0x2A ∧ b ≠ 0x3F ∧ b ≠ 0x5B ∧ b ≠ 0x5C) (r : Bytes) :
    items (b :: r) = .octet b :: items r :=
  @items_plain [b] (fun _ hc => List.mem_singleton.1 hc ▸ h) r

/-- A closing bracket lies in front of a colon if none lies behind it. -/
theorem rest_of_suffix (hr : 0x5D ∉ r) {rest : Bytes} (h : 0x5D :: rest <:+ p ++ colon :: r) :
    ∃ q, rest = q ++ colon :: r ∧ 0x5D :: q <:+ p := by
  obtain ⟨pre, hpre⟩ := h
  rcases List.append_eq_append_iff.1 hpre with ⟨as, rfl, has⟩ | ⟨as, -, has⟩
  · cases as with
    | nil => cases has
    | cons b q =>
      injection has with hb hq
      exact ⟨q, hq, hb ▸ List.suffix_append pre (b :: q)⟩
  · have hmem : 0x5D ∈ colon :: r := has ▸ List.mem_append_right _ List.mem_cons_self
    exact absurd ((List.mem_cons.1 hmem).resolve_left (by decide)) hr

/-- The items of a text in front of a colon: they are no stars, and as many as the text has octets, or fewer if it holds
an opening bracket or a backslash. The colon is an item of its own, unless a class has taken up all that follows. -/
structure Before (p r : Bytes) (is : List Item) : Prop where
  single : ∀ i ∈ is, i ≠ .star
  length : is.length ≤ p.length
  items : items (p ++ colon :: r) = is ∨ items (p ++ colon :: r) = is ++ .octet colon :: items r ∧
    (0x5B ∈ p ∨ 0x5C ∈ p → is.length < p.length)

/-- One item in front of what is left of the text. -/
theorem Before.cons {q : Bytes} {i : Item} (h : Before q r is) (hi : i ≠ .star) (hlt : q.length < p.length)
    (hitems : Glob.items (p ++ colon :: r) = i :: Glob.items (q ++ colon :: r))
    (hspecial : 0x5B ∈ p ∨ 0x5C ∈ p → q.length + 1 < p.length ∨ 0x5B ∈ q ∨ 0x5C ∈ q) : Before p r (i :: is) where
  single := List.forall_mem_cons.2 ⟨hi, h.single⟩
  length := by
    have := h.length
    rw [List.length_cons]
    omega
  items := by
    rw [hitems, List.length_cons]
    refine h.items.imp (congrArg (i :: ·)) fun ⟨h1, h2⟩ => ⟨congrArg (i :: ·) h1, fun hs => ?_⟩
    have := h.length
    rcases hspecial hs with hlt' | hs'
    · omega
    · have := h2 hs'
      omega

theorem items_colon (hp : 0x2A ∉ p) (hr : 0x5D ∉ r) : ∃ is, Before p r is := by
  induction hn : p.length using Nat.strongRecOn generalizing p with
  | _ n ih =>
    subst hn
    cases p with
    | nil => exact ⟨[], by simp, Nat.le_refl _, .inr ⟨items_octet colon (by decide) r, by simp⟩⟩
    | cons a p =>
      rw [List.mem_cons, not_or] at hp
      obtain ⟨is, his⟩ := ih p.length (Nat.lt_succ_self _) hp.2 rfl
      by_cases hany : a = 0x3F
      · subst hany
        refine ⟨_, his.cons (i := .any) (by rintro ⟨⟩) (Nat.lt_succ_self _) ?_ (by simp)⟩
        rw [List.cons_append, items, if_neg (by decide), if_pos rfl]
        rintro _ _ ⟨⟩
      by_cases hclass : a = 0x5B
      · subst hclass
        have hitems : items (0x5B :: p ++ colon :: r) =
            (choice (p ++ colon :: r)).1 :: items (choice (p ++ colon :: r)).2 := by
          rw [List.cons_append, items, if_neg (by decide), if_neg (by decide), if_pos rfl]
          rintro _ _ ⟨⟩
        rcases choice_rest (p ++ colon :: r) with hrest | hrest
        · refine ⟨[(choice (p ++ colon :: r)).1], ?_, Nat.succ_le_succ (Nat.zero_le _), .inl ?_⟩
          · simpa using choice_ne_star _
          · rw [hitems, hrest, items_nil]
        · obtain ⟨q, hq, hsuf⟩ := rest_of_suffix hr hrest
          have hlen := hsuf.length_le
          rw [List.length_cons] at hlen
          obtain ⟨js, hjs⟩ := ih q.length (by rw [List.length_cons]; omega)
            (fun hm => hp.2 (hsuf.subset (List.mem_cons_of_mem _ hm))) rfl
          refine ⟨_, hjs.cons (choice_ne_star _) ?_ (hq ▸ hitems) fun _ => .inl ?_⟩
          all_goals rw [List.length_cons]; omega
      by_cases hslash : a = 0x5C
      · subst hslash
        cases p with
        | nil => exact ⟨[], by simp, Nat.zero_le _, .inr ⟨items_backslash colon r, by simp⟩⟩
        | cons b p =>
          obtain ⟨js, hjs⟩ := ih p.length (by simp only [List.length_cons]; omega)
            (fun hm => hp.2 (List.mem_cons_of_mem _ hm)) rfl
          refine ⟨_, hjs.cons (i := .octet b) (by rintro ⟨⟩) ?_ (items_backslash b _) fun _ => .inl ?_⟩
          all_goals simp only [List.length_cons]; omega
      · refine ⟨_, his.cons (i := .octet a) (by rintro ⟨⟩) (Nat.lt_succ_self _)
          (items_octet a ⟨Ne.symm hp.1, hany, hclass, hslash⟩ _) ?_⟩
        simp [Ne.symm hclass, Ne.symm hslash]

/-! ## Texts in front of a colon -/

/-- What an octet without another meaning stands for. -/
def wild (b : UInt8) : Item := if b = 0x3F then .any else .octet b

theorem wild_ne_star (b : UInt8) : wild b ≠ .star := by
  unfold wild
  split <;> rintro ⟨⟩

theorem takes_wild (b : UInt8) : (wild b).takes b = true := by
  unfold wild
  split
  · rfl
  · exact beq_self_eq_true b

theorem items_wild (h : ∀ b ∈ p, b ≠ 0x2A ∧ b ≠ 0x5B ∧ b ≠ 0x5C) (r : Bytes) :
    items (p ++ r) = p.map wild ++ items r := by
  induction p with
  | nil => rfl
  | cons b p ih =>
    obtain ⟨h1, h2, h3⟩ := h b List.mem_cons_self
    rw [List.cons_append, List.map_cons, List.cons_append, ← ih fun c hc => h c (List.mem_cons_of_mem _ hc), wild]
    by_cases hb : b = 0x3F
    · subst hb
      rw [items, if_neg (by decide), if_pos rfl, if_pos rfl]
      rintro _ _ ⟨⟩
    · rw [if_neg hb, items_octet b ⟨h1, hb, h2, h3⟩]

theorem accepts_wild (p : Bytes) : accepts (p.map wild) p = true := by
  induction p with
  | nil => rfl
  | cons b p ih => exact (accepts_one (wild_ne_star b)).2 ⟨b, p, rfl, takes_wild b, ih⟩

/-- A text in front of a colon matches itself just when it holds no opening bracket and no backslash. -/
theorem matchesBytes_colon (hp : 0x2A ∉ p) (hc : colon ∉ p) (hr : 0x5D ∉ r) :
    matchesBytes (p ++ colon :: r) (p ++ colon :: t) = true ↔
      (0x5B ∉ p ∧ 0x5C ∉ p) ∧ matchesBytes r t = true := by
  unfold matchesBytes
  by_cases hspecial : 0x5B ∈ p ∨ 0x5C ∈ p
  · refine iff_of_false (fun h => ?_) fun h => hspecial.elim h.1.1 h.1.2
    obtain ⟨is, his⟩ := items_colon hp hr
    rcases his.items with hitems | ⟨hitems, hlt⟩
    · rw [hitems] at h
      have hlen := length_of_accepts his.single h
      have := his.length
      simp only [List.length_append, List.length_cons] at hlen
      omega
    · -- The octet at the place of the first colon is one of the text.
      rw [hitems] at h
      obtain ⟨a, b, hab, ha, hb⟩ := accepts_append.1 h
      obtain ⟨c, b, rfl, hcolon, -⟩ := (accepts_one (by rintro ⟨⟩)).1 hb
      have hlen := length_of_accepts his.single ha
      rw [← beq_iff_eq.1 hcolon] at hab
      have hlt := hlt hspecial
      have hget := congrArg (·[a.length]?) hab
      simp only [List.getElem?_append_left (hlen ▸ hlt), List.getElem?_append_right (Nat.le_refl _), Nat.sub_self,
        List.getElem?_cons_zero] at hget
      exact hc (List.mem_of_getElem? hget)
  · rw [not_or] at hspecial
    rw [and_iff_right hspecial, items_wild (fun b hb => ⟨fun he => hp (he ▸ hb), fun he => hspecial.1 (he ▸ hb),
      fun he => hspecial.2 (he ▸ hb)⟩), items_octet colon (by decide)]
    constructor
    · intro h
      obtain ⟨a, b, hab, ha, hb⟩ := accepts_append.1 h
      obtain ⟨c, b, rfl, -, hb⟩ := (accepts_one (by rintro ⟨⟩)).1 hb
      have hlen := length_of_accepts (List.forall_mem_map.2 fun b _ => wild_ne_star b) ha
      rw [List.length_map] at hlen
      obtain ⟨-, hrest⟩ := List.append_inj hab hlen.symm
      exact (List.cons.inj hrest).2 ▸ hb
    · exact fun h => accepts_append.2 ⟨p, colon :: t, rfl, accepts_wild p,
        (accepts_one (by rintro ⟨⟩)).2 ⟨colon, t, rfl, beq_self_eq_true _, h⟩⟩

/-! ## Entries -/

section Entries

variable {system tablespace table : String}

/-- A text before a colon that matches itself: it opens no class and takes no octet its meaning away. -/
def Faithful (s : String) : Prop := '[' ∉ s.toList ∧ '\\' ∉ s.toList

instance (s : String) : Decidable (Faithful s) := by unfold Faithful; infer_instance

theorem escape_name (h : Token.isName tablespace.toList = true) : escape tablespace = tablespace := by
  have hplain : ∀ c ∈ tablespace.toList, ¬ (c = '?' ∨ c = '[' ∨ c = ']' ∨ c = '\\') := by
    rintro c hc (rfl | rfl | rfl | rfl) <;> exact Key.notMem_of_isName h (by decide) hc
  unfold escape
  refine String.toList_inj.1 ?_
  rw [String.toList_ofList]
  generalize tablespace.toList = cs at hplain
  induction cs with
  | nil => rfl
  | cons c cs ih =>
    rw [List.flatMap_cons, if_neg (hplain c List.mem_cons_self), ih fun d hd => hplain d (List.mem_cons_of_mem _ hd)]
    rfl

theorem matchesBytes_rest (h : ∀ b ∈ bs, b ≠ 0x2A ∧ b ≠ 0x3F ∧ b ≠ 0x5B ∧ b ≠ 0x5C) (x : Bytes) :
    matchesBytes (bs ++ [0x2A, 0x7D]) (bs ++ (x ++ [0x7D])) = true := by
  have hend : items [0x2A, 0x7D] = [.star, .octet 0x7D] := (items_star [0x7D]).trans
    (congrArg (Item.star :: ·) ((items_octet 0x7D (by decide) []).trans (congrArg (Item.octet 0x7D :: ·) items_nil)))
  unfold matchesBytes
  rw [items_plain h, hend]
  exact accepts_append.2 ⟨bs, _, rfl, accepts_octets.2 rfl, accepts_star.2 ⟨x, [0x7D], rfl, by decide⟩⟩

theorem bytes_braced (s : String) : bytes (Key.braced s) = 0x7B :: (bytes s ++ [0x7D]) := by
  unfold Key.braced
  rw [bytes_append, bytes_append]
  rfl

/-- An entry matches the beginning of its key, with a star behind it, just when the name of the system does. -/
theorem matchesKey_braced (hs : ':' ∉ system.toList) (hs' : '*' ∉ system.toList) (part : String)
    (hpart : ∀ c ∈ part.toList, c ≠ '*' ∧ c ≠ '?' ∧ c ≠ '[' ∧ c ≠ '\\') (hpart' : ']' ∉ part.toList) (x : String) :
    matchesKey (Key.braced (system ++ "::" ++ part ++ "*")) (Key.braced (system ++ "::" ++ part ++ x)) = true ↔
      Faithful system := by
  have hmem {c : Char} (hc : c.toNat < 128) (hne : UInt8.ofNat c.toNat ≠ 0x7B) :
      UInt8.ofNat c.toNat ∈ (0x7B :: bytes system) ↔ c ∈ system.toList := by
    rw [List.mem_cons, or_iff_right hne]
    exact mem_encode_iff hc
  have hkey (y : String) : bytes (Key.braced (system ++ "::" ++ part ++ y)) =
      (0x7B :: bytes system) ++ colon :: ((colon :: bytes part) ++ (bytes y ++ [0x7D])) := by
    rw [bytes_braced]
    simp only [bytes_append, List.append_assoc, List.cons_append]
    rfl
  have hrest : matchesBytes ((colon :: bytes part) ++ (bytes "*" ++ [0x7D])) ((colon :: bytes part) ++ (bytes x ++ [0x7D])) =
      true := by
    refine matchesBytes_rest (List.forall_mem_cons.2 ⟨by decide, fun b hb => ?_⟩) (bytes x)
    obtain ⟨c, hc, hb⟩ := List.mem_flatMap.1 hb
    exact plain_encodeChar (hpart c hc) hb
  unfold matchesKey
  rw [hkey, hkey, matchesBytes_colon, and_iff_left hrest, Faithful]
  · exact and_congr (not_congr (@hmem '[' (by decide) (by decide))) (not_congr (@hmem '\\' (by decide) (by decide)))
  · exact mt (@hmem '*' (by decide) (by decide)).1 hs'
  · exact mt (@hmem ':' (by decide) (by decide)).1 hs
  · simp only [List.cons_append, List.mem_cons, List.mem_append, not_or]
    exact ⟨by decide, mt (mem_encode_iff (c := ']') (by decide)).1 hpart', by decide, by decide, List.not_mem_nil⟩

/-- An entry matches the pattern of all entries just when the name of the system tablespace matches itself. -/
theorem matchesKey_system (hs : ':' ∉ system.toList) (hs' : '*' ∉ system.toList) (tablespace table : String) :
    matchesKey (Key.systemPattern system none) (Key.system system tablespace table) = true ↔ Faithful system := by
  have h := matchesKey_braced hs hs' "" (by simp) (by simp)
    (tablespace ++ ":" ++ table)
  simpa [Key.systemPattern, Key.system, String.append_assoc] using h

/-- So it matches the pattern of the entries of its tablespace. -/
theorem matchesKey_system_tablespace (hs : ':' ∉ system.toList) (hs' : '*' ∉ system.toList)
    (hts : Token.isName tablespace.toList = true) (table : String) :
    matchesKey (Key.systemPattern system (some (escape tablespace))) (Key.system system tablespace table) = true ↔
      Faithful system := by
  have hpart {c : Char} (hc : c ∈ (tablespace ++ ":").toList) : Token.isNameChar c = true ∨ c = ':' := by
    rw [String.toList_append, List.mem_append] at hc
    exact hc.imp (Key.isNameChar_of_isName hts) List.mem_singleton.1
  have h := matchesKey_braced hs hs' (tablespace ++ ":")
    (fun c hc => by refine ⟨?_, ?_, ?_, ?_⟩ <;> rintro rfl <;> exact absurd (hpart hc) (by decide))
    (fun hc => absurd (hpart hc) (by decide)) table
  rw [escape_name hts]
  simpa [Key.systemPattern, Key.system, String.append_assoc] using h

end Entries
end SlotSql.Glob
