import SlotSql.Cluster.Slot
import SlotSql.Key
import SlotSql.Proofs.Text.Pieces
import SlotSql.Proofs.Text.Utf8
import SlotSql.Statement.Token
/-!
# Reading keys back

A row key gives back the names and the parts that it was made of, no key of a set is a row key, and the
sets of a row lie in the slot of the row.

Results:
* `parseRow?_of_toList`, `parseRow?_row`, `parseRow?_eq_some`: row keys and what they are made of.
* `set_ne_row`, `parseRow?_set`, `set_inj`: keys of sets.
* `parseSystem?_system`, `parseSystem?_eq_some`: keys of entries.
* `slotOf_append`: what follows the braces does not count for the slot.
* `slotOf_set`, `slotOf_set_of_parseRow?`: a set lies in the slot of its row.
* `layout_injective`: all of this about one layout.
-/
namespace SlotSql.Key

open Text

variable {key k k' f f' tablespace table : String} {parts : List String}

/-! ## Row keys -/

theorem toList_join (parts : List String) :
    (String.join (parts.map (":" ++ ·))).toList = (parts.map String.toList).flatMap (':' :: ·) := by
  rw [String.toList_join, List.flatMap_map, List.flatMap_map]
  congr 1
  funext p
  rw [String.toList_append]
  rfl

theorem toList_row (tablespace table : String) (parts : List String) :
    (row tablespace table parts).toList = openBrace :: (tablespace.toList ++ ':' :: ':' ::
      (table.toList ++ (parts.map String.toList).flatMap (':' :: ·))) ++ [closeBrace] := by
  unfold row braced
  simp only [String.toList_append, toList_join, String.toList_singleton]
  simp

theorem inner?_eq_some {cs : List Char} :
    inner? key = some cs ↔ key.toList = openBrace :: cs ++ [closeBrace] := by
  unfold inner?
  rw [Option.bind_eq_some_iff]
  constructor
  · rintro ⟨r, h1, h2⟩
    rw [stripStart?_eq_some] at h1
    rw [stripEnd?_eq_some] at h2
    rw [h1, h2]
    rfl
  · intro h
    exact ⟨cs ++ [closeBrace], stripStart?_eq_some.2 h, stripEnd?_eq_some.2 rfl⟩

theorem map_toList_ofList (ps : List (List Char)) : (ps.map String.ofList).map String.toList = ps := by
  rw [List.map_map]
  exact (List.map_congr_left fun _ _ => String.toList_ofList).trans (List.map_id _)

/-- What is read from a text between braces in which two colons follow a first name and one a second. -/
theorem parseRow?_of_toList {ts tb r : List Char}
    (hk : key.toList = openBrace :: (ts ++ ':' :: ':' :: (tb ++ ':' :: r)) ++ [closeBrace]) (hts : ts ≠ [])
    (hts' : ':' ∉ ts) (htb : tb ≠ []) (htb' : ':' ∉ tb) :
    parseRow? key = some (String.ofList ts, String.ofList tb, (split ':' r).map String.ofList) := by
  unfold parseRow?
  rw [inner?_eq_some.2 hk, Option.bind_eq_bind, Option.bind_some, cut?_pair hts', Option.bind_eq_bind,
    Option.bind_some]
  simp only [split_append_cons htb']
  rw [if_neg (by simp [hts, htb, split_ne_nil])]

/-- The names and parts of a row key are read back. -/
theorem parseRow?_row (hts : tablespace ≠ "") (hts' : ':' ∉ tablespace.toList) (ht : table ≠ "")
    (ht' : ':' ∉ table.toList) (hp : parts ≠ []) (hp' : ∀ p ∈ parts, ':' ∉ p.toList) :
    parseRow? (row tablespace table parts) = some (tablespace, table, parts) := by
  obtain ⟨p, ps, rfl⟩ := List.exists_cons_of_ne_nil hp
  have hsplit : split ':' (p.toList ++ (ps.map String.toList).flatMap (':' :: ·)) =
      p.toList :: ps.map String.toList :=
    split_joined (hp' p List.mem_cons_self)
      (by simpa using fun q hq => hp' q (List.mem_cons_of_mem _ hq))
  have hback (qs : List String) : (qs.map String.toList).map String.ofList = qs := by
    rw [List.map_map]
    exact (List.map_congr_left fun _ _ => String.ofList_toList).trans (List.map_id _)
  rw [@parseRow?_of_toList _ tablespace.toList table.toList
    (p.toList ++ (ps.map String.toList).flatMap (':' :: ·)) (toList_row ..) (by simpa using hts) hts'
    (by simpa using ht) ht', hsplit, ← List.map_cons, hback, String.ofList_toList, String.ofList_toList]

/-- What is read from a row key makes it up. -/
theorem parseRow?_eq_some (h : parseRow? key = some (tablespace, table, parts)) :
    key = row tablespace table parts ∧ tablespace ≠ "" ∧ table ≠ "" ∧ parts ≠ [] ∧
      ':' ∉ table.toList ∧ ∀ p ∈ parts, ':' ∉ p.toList := by
  unfold parseRow? at h
  obtain ⟨cs, h1, h⟩ := Option.bind_eq_some_iff.1 h
  obtain ⟨⟨ts, rest⟩, h2, h⟩ := Option.bind_eq_some_iff.1 h
  simp only [] at h
  cases hs : split ':' rest with
  | nil => exact absurd hs (split_ne_nil _ _)
  | cons tb ps =>
    rw [hs] at h
    simp only [] at h
    split at h
    · cases h
    · next hne =>
      cases h
      simp only [List.isEmpty_iff, not_or] at hne
      obtain ⟨hr, htb, hps⟩ := split_eq_cons_iff.1 hs
      have hcs := cut?_eq_some h2
      refine ⟨String.toList_inj.1 ?_, ?_, ?_, by simpa using hne.2.2, by simpa using htb, ?_⟩
      · rw [toList_row, inner?_eq_some.1 h1, hcs, hr, map_toList_ofList]
        simp
      · exact fun he => hne.1 (by simpa using congrArg String.toList he)
      · exact fun he => hne.2.1 (by simpa using congrArg String.toList he)
      · simpa using hps

/-! ## Keys of sets -/

theorem toList_set (k f : String) : (set k f).toList = k.toList ++ '$' :: f.toList := by
  unfold set
  simp only [String.toList_append]
  simp

/-- A row key ends with a brace, which no field does. -/
theorem set_ne_row (hf : closeBrace ∉ f.toList) : set k f ≠ row tablespace table parts := by
  intro h
  have hlast : (set k f).toList.getLast? = some closeBrace := by rw [h, toList_row, List.getLast?_concat]
  rw [toList_set, List.getLast?_append, List.getLast?_cons, Option.some_or] at hlast
  cases hl : f.toList.getLast? with
  | none =>
    rw [hl] at hlast
    exact absurd hlast (by decide)
  | some c =>
    rw [hl] at hlast
    cases hlast
    exact hf (List.mem_of_getLast? hl)

/-- The key of a set is no row key. -/
theorem parseRow?_set (hf : closeBrace ∉ f.toList) : parseRow? (set k f) = none := by
  cases h : parseRow? (set k f) with
  | none => rfl
  | some x => exact absurd (parseRow?_eq_some h).1 (set_ne_row hf)

theorem set_inj (hf : '$' ∉ f.toList) (hf' : '$' ∉ f'.toList) : set k f = set k' f' ↔ k = k' ∧ f = f' := by
  constructor
  · intro h
    have h1 := congrArg (fun s => s.toList.reverse) h
    simp only [toList_set, List.reverse_append, List.reverse_cons, List.append_assoc,
      List.singleton_append] at h1
    obtain ⟨h2, h3⟩ := eq_of_append_cons (by simpa using hf) (by simpa using hf') h1
    exact ⟨String.toList_inj.1 (List.reverse_inj.1 h3), String.toList_inj.1 (List.reverse_inj.1 h2)⟩
  · rintro ⟨rfl, rfl⟩
    rfl

/-! ## Keys of entries -/

theorem toList_system (p tablespace table : String) : (system p tablespace table).toList =
    openBrace :: (p.toList ++ ':' :: (':' :: (tablespace.toList ++ ':' :: table.toList))) ++ [closeBrace] := by
  unfold system braced
  simp [String.toList_append]

/-- The names of an entry are read back. -/
theorem parseSystem?_system {p : String} (hts : tablespace ≠ "") (hts' : ':' ∉ tablespace.toList) (ht : table ≠ "")
    (ht' : ':' ∉ table.toList) : parseSystem? p (system p tablespace table) = some (tablespace, table) := by
  unfold parseSystem?
  rw [inner?_eq_some.2 (toList_system ..), Option.bind_eq_bind, Option.bind_some, stripStart?_eq_some.2 rfl,
    Option.bind_eq_bind, Option.bind_some]
  show (cut? [':'] (tablespace.toList ++ ':' :: table.toList)).bind _ = _
  rw [cut?_cons hts', Option.bind_some]
  simp only []
  rw [if_neg (by simp [hts, ht, ht']), String.ofList_toList, String.ofList_toList]

/-- What is read from the key of an entry makes it up. -/
theorem parseSystem?_eq_some {p : String} (h : parseSystem? p key = some (tablespace, table)) :
    key = system p tablespace table := by
  unfold parseSystem? at h
  obtain ⟨cs, h1, h⟩ := Option.bind_eq_some_iff.1 h
  obtain ⟨ds, h2, h⟩ := Option.bind_eq_some_iff.1 h
  obtain ⟨es, h3, h⟩ := Option.bind_eq_some_iff.1 h
  obtain ⟨⟨ts, tb⟩, h4, h⟩ := Option.bind_eq_some_iff.1 h
  simp only [] at h
  split at h
  · cases h
  · cases h
    refine String.toList_inj.1 ?_
    rw [toList_system, inner?_eq_some.1 h1, stripStart?_eq_some.1 h2, stripStart?_eq_some.1 h3, cut?_eq_some h4]
    simp

/-! ## Slots -/

open Cluster in
/-- What follows the closing brace does not change the part of a key that decides its slot. -/
theorem hashTag_append {r x : Bytes} (hr : r.head? ≠ some Cluster.closeBrace) (hc : Cluster.closeBrace ∈ r) :
    hashTag (Cluster.openBrace :: r ++ x) = hashTag (Cluster.openBrace :: r) := by
  have hx : (r ++ x).takeWhile (· != Cluster.closeBrace) = r.takeWhile (· != Cluster.closeBrace) := by
    clear hr
    induction r with
    | nil => cases hc
    | cons b r ih =>
      rw [List.cons_append, List.takeWhile_cons, List.takeWhile_cons]
      by_cases hb : b = Cluster.closeBrace
      · simp [hb]
      · rw [ih ((List.mem_cons.1 hc).resolve_left (Ne.symm hb))]
  have hlt : (r.takeWhile (· != Cluster.closeBrace)).length < r.length := by
    refine Nat.lt_of_le_of_ne (List.takeWhile_sublist _).length_le fun he => ?_
    have := (List.takeWhile_sublist _).eq_of_length he
    have := List.all_eq_true.1 (List.all_takeWhile (p := (· != Cluster.closeBrace)) (l := r)) _ (this.symm ▸ hc)
    simp at this
  have hne : r.takeWhile (· != Cluster.closeBrace) ≠ [] := by
    cases r with
    | nil => cases hc
    | cons b r =>
      have : b ≠ Cluster.closeBrace := fun he => hr (by rw [he]; rfl)
      simp [this]
  have hdrop (r : Bytes) : (Cluster.openBrace :: r).dropWhile (· != Cluster.openBrace) =
      Cluster.openBrace :: r := by
    simp
  unfold hashTag
  rw [List.cons_append, hdrop, hdrop]
  simp only [hx]
  rw [if_pos ⟨by rw [List.length_append]; omega, hne⟩, if_pos ⟨hlt, hne⟩]

/-- A key that begins with a brace and the beginning of a name, and has a closing brace. -/
def Tagged (key : String) : Prop :=
  ∃ c cs, key.toList = openBrace :: c :: cs ∧ Token.isNameStart c = true ∧ closeBrace ∈ cs

theorem tagged_row (h : Token.isName tablespace.toList = true) (table : String) (parts : List String) :
    Tagged (row tablespace table parts) := by
  cases hts : tablespace.toList with
  | nil => rw [hts] at h; cases h
  | cons c cs =>
    rw [hts, Token.isName, Bool.and_eq_true] at h
    refine ⟨c, cs ++ ':' :: ':' :: (table.toList ++ (parts.map String.toList).flatMap (':' :: ·)) ++
      [closeBrace], ?_, h.1, by simp⟩
    rw [toList_row, hts]
    simp

theorem isNameChar_of_isName {cs : List Char} (h : Token.isName cs = true) {c : Char} (hc : c ∈ cs) :
    Token.isNameChar c = true := by
  cases cs with
  | nil => cases hc
  | cons d cs =>
    simp only [Token.isName, Bool.and_eq_true, List.all_eq_true] at h
    rcases List.mem_cons.1 hc with rfl | hc
    · unfold Token.isNameChar
      rw [h.1]
      rfl
    · exact h.2 c hc

/-- A name does not hold what is no character of names. -/
theorem notMem_of_isName {cs : List Char} (h : Token.isName cs = true) {c : Char}
    (hc : Token.isNameChar c = false) : c ∉ cs := fun hm => by
  rw [isNameChar_of_isName h hm] at hc
  cases hc

/-- What follows a key does not change its slot, if the key begins with a brace that is not closed at once but somewhere. -/
theorem slotOf_append {c : Char} {cs : List Char} (hk : key.toList = openBrace :: c :: cs) (hc : c ≠ closeBrace)
    (hm : closeBrace ∈ cs) (rest : String) : Cluster.slotOf (key ++ rest) = Cluster.slotOf key := by
  have hb : Utf8.bytes key = Cluster.openBrace :: Utf8.encode (c :: cs) := by
    unfold Utf8.bytes
    rw [hk]
    rfl
  have hbrace : closeBrace.toNat < 128 := by decide
  unfold Cluster.slotOf Cluster.keySlot
  rw [Utf8.bytes_append, hb, hashTag_append]
  · intro hhead
    have hfirst : Cluster.closeBrace ∈ Utf8.encode [c] := by
      refine List.mem_of_head? (Eq.trans ?_ hhead)
      show _ = (Utf8.encode ([c] ++ cs)).head?
      rw [Utf8.encode_append, List.head?_append_of_ne_nil]
      rw [Utf8.encode, List.flatMap_singleton]
      exact List.ne_nil_of_length_pos (by rw [String.length_utf8EncodeChar]; exact c.utf8Size_pos)
    exact hc (List.mem_singleton.1 ((Utf8.mem_encode_iff (c := closeBrace) hbrace).1 hfirst)).symm
  · exact (Utf8.mem_encode_iff (c := closeBrace) hbrace).2 (List.mem_cons_of_mem _ hm)

/-- A set lies in the slot of its row. -/
theorem slotOf_set (h : Tagged key) (f : String) : Cluster.slotOf (set key f) = Cluster.slotOf key := by
  obtain ⟨c, cs, hk, hc, hm⟩ := h
  rw [set, String.append_assoc]
  refine slotOf_append hk ?_ hm _
  rintro rfl
  cases hc

/-- So it does if the key of the row can be read, whatever braces the parts hold: what is closed first begins with the
tablespace. -/
theorem slotOf_set_of_parseRow? (h : parseRow? key = some (tablespace, table, parts))
    (hts : tablespace.toList.head? ≠ some closeBrace) (f : String) : Cluster.slotOf (set key f) = Cluster.slotOf key := by
  obtain ⟨rfl, hne, -⟩ := parseRow?_eq_some h
  obtain ⟨c, cs, hcs⟩ := List.exists_cons_of_ne_nil (mt String.toList_eq_nil_iff.1 hne)
  rw [hcs, List.head?_cons, Ne, Option.some.injEq] at hts
  have hk : (row tablespace table parts).toList = openBrace :: c :: (cs ++ ':' :: ':' :: (table.toList ++
      (parts.map String.toList).flatMap (':' :: ·)) ++ [closeBrace]) := by
    rw [toList_row, hcs]
    simp
  rw [set, String.append_assoc]
  exact slotOf_append hk hts (by simp) _

/-! ## The layout -/

/-- Names and parts that can be told apart in a row key. -/
structure Separable (tablespace table : String) (parts : List String) : Prop where
  tablespace : tablespace ≠ "" ∧ ':' ∉ tablespace.toList
  table : table ≠ "" ∧ ':' ∉ table.toList
  parts : parts ≠ [] ∧ ∀ p ∈ parts, ':' ∉ p.toList

namespace Separable

variable {tablespace' table' : String} {parts' : List String}

theorem parseRow? (h : Separable tablespace table parts) :
    parseRow? (row tablespace table parts) = some (tablespace, table, parts) :=
  parseRow?_row h.tablespace.1 h.tablespace.2 h.table.1 h.table.2 h.parts.1 h.parts.2

/-- Different rows have different keys. -/
theorem row_inj (h : Separable tablespace table parts) (h' : Separable tablespace' table' parts') :
    row tablespace table parts = row tablespace' table' parts' ↔
      tablespace = tablespace' ∧ table = table' ∧ parts = parts' := by
  constructor
  · intro he
    have hread := h.parseRow?.symm.trans ((congrArg Key.parseRow? he).trans h'.parseRow?)
    simpa using hread
  · rintro ⟨rfl, rfl, rfl⟩
    rfl

end Separable

/-- The layout of keys is injective and keeps a row in one slot: rows are told apart by their keys, the keys of sets from row
keys and from each other, and all the sets of a row lie in its slot. -/
theorem layout_injective :
    (∀ tablespace table parts, Separable tablespace table parts →
      parseRow? (row tablespace table parts) = some (tablespace, table, parts)) ∧
    (∀ tablespace table parts tablespace' table' parts', Separable tablespace table parts →
      Separable tablespace' table' parts' → row tablespace table parts = row tablespace' table' parts' →
      tablespace = tablespace' ∧ table = table' ∧ parts = parts') ∧
    (∀ key f, Token.isName f.toList = true →
      parseRow? (set key f) = none ∧ ∀ tablespace table parts, set key f ≠ row tablespace table parts) ∧
    (∀ key f key' f', Token.isName f.toList = true → Token.isName f'.toList = true → set key f = set key' f' →
      key = key' ∧ f = f') ∧
    ∀ key tablespace table parts, parseRow? key = some (tablespace, table, parts) →
      tablespace.toList.head? ≠ some closeBrace → ∀ f, Cluster.slotOf (set key f) = Cluster.slotOf key := by
  refine ⟨fun _ _ _ h => h.parseRow?, fun _ _ _ _ _ _ h h' => (h.row_inj h').1, fun key f hf => ?_,
    fun key f key' f' hf hf' => ?_, fun _ _ _ _ => slotOf_set_of_parseRow?⟩
  · have hbrace : closeBrace ∉ f.toList := notMem_of_isName hf (by decide)
    exact ⟨parseRow?_set hbrace, fun _ _ _ => set_ne_row hbrace⟩
  · exact (set_inj (notMem_of_isName hf (by decide)) (notMem_of_isName hf' (by decide))).1

/-- A row with an empty part and one that holds braces, and its set of tags. -/
theorem layout_injective_braces :
    parseRow? (row "t" "logs" ["", "\x7d\x7b"]) = some ("t", "logs", ["", "\x7d\x7b"]) ∧
    parseRow? (set (row "t" "logs" ["", "\x7d\x7b"]) "tags") = none ∧
    Cluster.slotOf (set (row "t" "logs" ["", "\x7d\x7b"]) "tags") = Cluster.slotOf (row "t" "logs" ["", "\x7d\x7b"]) := by
  obtain ⟨hrow, -, hset, -, hslot⟩ := layout_injective
  have hread := hrow "t" "logs" ["", "\x7d\x7b"] ⟨by decide, by decide, by decide⟩
  exact ⟨hread, (hset _ "tags" (by decide)).1, hslot _ _ _ _ hread (by decide) "tags"⟩

end SlotSql.Key
