/-!
# Maps with text keys

Finite maps whose entries are kept in the order of their keys, by code point. The order is a part of
the type.

Results:
* `get?_insert`, `get?_erase`: what a map holds after a change.
-/
namespace SlotSql

/-- A finite map from texts. -/
structure KeyMap (α : Type) where
  entries : List (String × α)
  sorted : entries.Pairwise fun a b => a.1 < b.1

namespace KeyMap

variable {α : Type}

/-- The map without entries. -/
def empty : KeyMap α := ⟨[], .nil⟩

/-- The keys, in order. -/
def keys (m : KeyMap α) : List String := m.entries.map Prod.fst

/-- The number of entries. -/
def size (m : KeyMap α) : Nat := m.entries.length

/-- Whether there are no entries. -/
def isEmpty (m : KeyMap α) : Bool := m.entries.isEmpty

/-- The value under a key. -/
def get? (m : KeyMap α) (k : String) : Option α := m.entries.lookup k

/-- Whether there is a value under a key. -/
def contains (m : KeyMap α) (k : String) : Bool := (m.get? k).isSome

/-- The entries with a value put under a key, at the place of the key. -/
def place (k : String) (v : α) : List (String × α) → List (String × α)
  | [] => [(k, v)]
  | e :: es =>
    if k < e.1 then (k, v) :: e :: es
    else if k = e.1 then (k, v) :: es
    else e :: place k v es

theorem mem_place {k : String} {v : α} {es : List (String × α)} {x : String × α}
    (h : x ∈ place k v es) : x = (k, v) ∨ x ∈ es := by
  induction es with
  | nil => simpa [place] using h
  | cons e es ih =>
    rw [place] at h
    split at h
    · simpa using h
    · split at h
      · rcases List.mem_cons.1 h with h | h
        · exact .inl h
        · exact .inr (List.mem_cons_of_mem _ h)
      · rcases List.mem_cons.1 h with h | h
        · exact .inr (by simp [h])
        · exact (ih h).imp id (List.mem_cons_of_mem _)

theorem pairwise_place {k : String} {v : α} {es : List (String × α)}
    (h : es.Pairwise fun a b => a.1 < b.1) : (place k v es).Pairwise fun a b => a.1 < b.1 := by
  induction es with
  | nil => simp [place]
  | cons e es ih =>
    obtain ⟨h1, h2⟩ := List.pairwise_cons.1 h
    rw [place]
    split
    · next hk =>
      refine List.pairwise_cons.2 ⟨fun x hx => ?_, h⟩
      rcases List.mem_cons.1 hx with rfl | hx
      · exact hk
      · exact String.lt_trans hk (h1 x hx)
    · split
      · next hk => exact List.pairwise_cons.2 ⟨fun x hx => by subst hk; exact h1 x hx, h2⟩
      · next hlt hne =>
        refine List.pairwise_cons.2 ⟨fun x hx => ?_, ih h2⟩
        rcases mem_place hx with rfl | hx
        · rcases Std.Trichotomous.rel_or_eq_or_rel_swap (r := (· < · : String → String → Prop)) (a := e.1) (b := k) with h | h | h
          · exact h
          · exact absurd h.symm hne
          · exact absurd h hlt
        · exact h1 x hx

/-- The map with a value put under a key. -/
def insert (m : KeyMap α) (k : String) (v : α) : KeyMap α := ⟨place k v m.entries, pairwise_place m.sorted⟩

/-- The map without a key. -/
def erase (m : KeyMap α) (k : String) : KeyMap α :=
  ⟨m.entries.filter fun e => e.1 != k, m.sorted.filter _⟩

theorem lookup_cons_if {j : String} {e : String × α} {es : List (String × α)} :
    (e :: es).lookup j = if j = e.1 then some e.2 else es.lookup j := by
  obtain ⟨k, v⟩ := e
  rw [List.lookup_cons]
  by_cases h : j = k
  · simp [h]
  · have : (j == k) = false := by simpa using h
    simp [this, h]

theorem lookup_place {k j : String} {v : α} {es : List (String × α)} :
    (place k v es).lookup j = if j = k then some v else es.lookup j := by
  induction es with
  | nil => rw [place, lookup_cons_if]
  | cons e es ih =>
    rw [place]
    split
    · rw [lookup_cons_if]
    · split
      · next hk => rw [lookup_cons_if, lookup_cons_if, ← hk]; by_cases h : j = k <;> simp [h]
      · next hne =>
        rw [lookup_cons_if, lookup_cons_if, ih]
        by_cases h : j = k
        · subst h; simp [hne]
        · simp [h]

theorem get?_insert {m : KeyMap α} {k j : String} {v : α} :
    (m.insert k v).get? j = if j = k then some v else m.get? j := lookup_place

theorem lookup_filter_ne {k j : String} {es : List (String × α)} :
    (es.filter fun e => e.1 != k).lookup j = if j = k then none else es.lookup j := by
  induction es with
  | nil => simp
  | cons e es ih =>
    by_cases hk : e.1 = k
    · rw [List.filter_cons_of_neg (by simp [hk]), ih, lookup_cons_if, hk]
      by_cases h : j = k <;> simp [h]
    · rw [List.filter_cons_of_pos (by simp [hk]), lookup_cons_if, lookup_cons_if, ih]
      by_cases h : j = k
      · subst h; simp [Ne.symm hk]
      · simp [h]

theorem get?_erase {m : KeyMap α} {k j : String} :
    (m.erase k).get? j = if j = k then none else m.get? j := lookup_filter_ne

/-- The keys from a given one on. -/
def keysFrom (m : KeyMap α) (k : String) : List String := m.keys.dropWhile (· < k)

end KeyMap
end SlotSql
