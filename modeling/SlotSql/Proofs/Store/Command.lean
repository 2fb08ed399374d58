import SlotSql.Store.Command
/-!
# What a command on keys depends on and changes

A command reads and changes only what lies under its own keys. So it does the same on two stores that
agree on these keys, and leaves every other key alone.

Results:
* `run_reply`, `run_inside`: stores that agree on the keys of a command give the same reply, and agree on
  them afterwards.
* `run_outside`: no other key changes.
-/
namespace SlotSql

namespace KeyMap

variable {α : Type} {m : KeyMap α} {k j : String} {v : α}

theorem mem_keys_iff : k ∈ m.keys ↔ (m.get? k).isSome = true := by
  have h (es : List (String × α)) : k ∈ es.map Prod.fst ↔ (es.lookup k).isSome = true := by
    induction es with
    | nil => simp
    | cons e es ih =>
      rw [List.map_cons, List.mem_cons, lookup_cons_if, ih]
      by_cases he : k = e.1 <;> simp [he]
  exact h m.entries

theorem keys_sorted (m : KeyMap α) : m.keys.Pairwise (· < ·) := List.pairwise_map.2 m.sorted

theorem keys_nodup (m : KeyMap α) : m.keys.Nodup :=
  m.keys_sorted.imp fun h he => by subst he; exact absurd h (String.lt_irrefl _)

theorem get?_empty : (empty : KeyMap α).get? k = none := rfl

theorem isEmpty_iff : m.isEmpty = true ↔ ∀ k, m.get? k = none := by
  constructor
  · intro h k
    have : m.entries = [] := by simpa [isEmpty] using h
    simp [get?, this]
  · intro h
    unfold isEmpty
    cases he : m.entries with
    | nil => rfl
    | cons e es =>
      have := h e.1
      rw [get?, he, lookup_cons_if, if_pos rfl] at this
      cases this

theorem contains_iff : m.contains k = true ↔ k ∈ m.keys := mem_keys_iff.symm

theorem keys_erase (m : KeyMap α) (k : String) : (m.erase k).keys = m.keys.filter (· != k) := by
  unfold keys erase
  rw [List.filter_map]
  rfl

end KeyMap

namespace Store

open SlotSql.Cluster (Reply)

variable {d d₁ d₂ : Data} {key k : String}

/-- What a change of one key puts under the keys. -/
theorem get?_put (v : Value) :
    (put d key v).get? k = if k = key then (if v.isEmpty then none else some v) else d.get? k := by
  unfold put
  split
  · rw [KeyMap.get?_erase]
  · rw [KeyMap.get?_insert]

namespace KeyCommand

/-- The keys of a command. -/
def keys : KeyCommand → List String
  | countKeys ks | del ks => ks
  | hset _ k _ | hmget k _ | hgetall k | hdel k _ | sadd k _ | srem k _ | smembers k | scard k => [k]

/-- Two stores agree on keys. -/
def Agree (ks : List String) (d₁ d₂ : Data) : Prop := ∀ k ∈ ks, d₁.get? k = d₂.get? k

/-- Only what holds a set holds no hash. -/
theorem hashAt_error {e : Reply} (h : hashAt d key = .error e) : e = wrongType := by
  unfold hashAt at h
  split at h
  · cases h
  · cases h
  · exact (Except.error.inj h).symm

/-- Only what holds a hash holds no set. -/
theorem setAt_error {e : Reply} (h : setAt d key = .error e) : e = wrongType := by
  unfold setAt at h
  split at h
  · cases h
  · cases h
  · exact (Except.error.inj h).symm

theorem hashAt_agree (h : d₁.get? key = d₂.get? key) : hashAt d₁ key = hashAt d₂ key := by
  unfold hashAt; rw [h]

theorem setAt_agree (h : d₁.get? key = d₂.get? key) : setAt d₁ key = setAt d₂ key := by
  unfold setAt; rw [h]

/-! ## Taking keys out -/

theorem eraseAll_nil {α : Type} (m : KeyMap α) : eraseAll m [] = (0, m) := rfl

theorem eraseAll_foldl {α : Type} (m : KeyMap α) (n : Nat) (ks : List String) :
    ks.foldl (fun (n, m) k => (if m.contains k then n + 1 else n, m.erase k)) (n, m) =
      (n + (eraseAll m ks).1, (eraseAll m ks).2) := by
  unfold eraseAll
  induction ks generalizing n m with
  | nil => rfl
  | cons k ks ih =>
    simp only [List.foldl_cons]
    rw [ih, ih (m.erase k) (if m.contains k = true then 0 + 1 else 0)]
    split <;> simp
    omega

theorem eraseAll_cons {α : Type} (m : KeyMap α) (k : String) (ks : List String) :
    eraseAll m (k :: ks) =
      ((if m.contains k then 1 else 0) + (eraseAll (m.erase k) ks).1, (eraseAll (m.erase k) ks).2) := by
  rw [eraseAll, List.foldl_cons, eraseAll_foldl, Nat.zero_add]

theorem get?_eraseAll {α : Type} (m : KeyMap α) (ks : List String) (j : String) :
    (eraseAll m ks).2.get? j = if j ∈ ks then none else m.get? j := by
  induction ks generalizing m with
  | nil => simp [eraseAll_nil]
  | cons k ks ih =>
    rw [eraseAll_cons, ih, KeyMap.get?_erase]
    by_cases h : j = k <;> by_cases h' : j ∈ ks <;> simp [h, h']

theorem keys_eraseAll {α : Type} (m : KeyMap α) (ks : List String) :
    (eraseAll m ks).2.keys = m.keys.filter fun k => !ks.contains k := by
  induction ks generalizing m with
  | nil => exact (List.filter_eq_self.2 fun _ _ => rfl).symm
  | cons k ks ih =>
    rw [eraseAll_cons, ih, KeyMap.keys_erase, List.filter_filter]
    congr 1
    funext j
    by_cases h : j = k <;> simp [h]

theorem eraseAll_agree {ks : List String} (h : Agree ks d₁ d₂) :
    (eraseAll d₁ ks).1 = (eraseAll d₂ ks).1 := by
  induction ks generalizing d₁ d₂ with
  | nil => rfl
  | cons k ks ih =>
    have hk := h k List.mem_cons_self
    have hc : d₁.contains k = d₂.contains k := by unfold KeyMap.contains; rw [hk]
    rw [eraseAll_cons, eraseAll_cons, hc, ih fun j hj => ?_]
    rw [KeyMap.get?_erase, KeyMap.get?_erase, h j (List.mem_cons_of_mem _ hj)]

/-! ## Putting items in -/

section InsertAll

variable {α : Type} {m : KeyMap α} {ps : List (String × α)} {j : String} {v : α}

theorem insertAll_cons (m : KeyMap α) (p : String × α) (ps : List (String × α)) :
    (insertAll m (p :: ps)).2 = (insertAll (m.insert p.1 p.2) ps).2 := by
  -- the count in front does not matter for the map
  have hcount {f : Nat × KeyMap α → String × α → Nat × KeyMap α}
      (hf : ∀ x p, (f x p).2 = x.2.insert p.1 p.2) (x : Nat × KeyMap α) (ps : List (String × α)) :
      (ps.foldl f x).2 = ps.foldl (fun m p => m.insert p.1 p.2) x.2 := by
    induction ps generalizing x with
    | nil => rfl
    | cons p ps ih => rw [List.foldl_cons, List.foldl_cons, ih, hf]
  rw [insertAll, insertAll, hcount fun _ _ => rfl, hcount fun _ _ => rfl, List.foldl_cons]

/-- Of the items put in under one key, the last one stays. -/
theorem get?_insertAll (m : KeyMap α) (ps : List (String × α)) (j : String) :
    (insertAll m ps).2.get? j = (ps.reverse.lookup j).or (m.get? j) := by
  induction ps generalizing m with
  | nil => rfl
  | cons p ps ih =>
    rw [insertAll_cons, ih, KeyMap.get?_insert, List.reverse_cons, List.lookup_append, Option.or_assoc,
      KeyMap.lookup_cons_if]
    split <;> rfl

theorem mem_of_lookup {ps : List (String × α)} (h : ps.lookup j = some v) : (j, v) ∈ ps := by
  induction ps with
  | nil => cases h
  | cons p ps ih =>
    rw [KeyMap.lookup_cons_if] at h
    split at h
    · next he =>
      cases h
      exact he ▸ List.mem_cons_self
    · exact List.mem_cons_of_mem _ (ih h)

/-- What is found among items that were put in is one of them or was there before. -/
theorem mem_of_insertAll (h : (insertAll m ps).2.get? j = some v) : (j, v) ∈ ps ∨ m.get? j = some v := by
  rw [get?_insertAll] at h
  rcases Option.or_eq_some_iff.1 h with h | ⟨-, h⟩
  · exact .inl (List.mem_reverse.1 (mem_of_lookup h))
  · exact .inr h

/-- Where items were put in, there is something. -/
theorem insertAll_isEmpty (m : KeyMap α) (hp : ps ≠ []) : (insertAll m ps).2.isEmpty = false := by
  obtain ⟨qs, p, rfl⟩ := (List.eq_nil_or_concat ps).resolve_left hp
  refine Bool.eq_false_iff.2 fun he => ?_
  have hlast := KeyMap.isEmpty_iff.1 he p.1
  rw [get?_insertAll, List.concat_eq_append, List.reverse_append, List.reverse_singleton, List.singleton_append,
    KeyMap.lookup_cons_if, if_pos rfl] at hlast
  cases hlast

end InsertAll

/-! ## Running a command -/

/-- Stores that agree on the keys of a command give the same reply. -/
theorem run_reply (c : KeyCommand) (h : Agree c.keys d₁ d₂) : (c.run d₁).1 = (c.run d₂).1 := by
  cases c with
  | countKeys ks =>
    have : ks.filter d₁.contains = ks.filter d₂.contains :=
      List.filter_congr fun k hk => by unfold KeyMap.contains; rw [h k hk]
    simp only [run, this]
  | del ks => exact congrArg (fun n : Nat => Reply.integer n) (eraseAll_agree h)
  | hset _ k _ => simp only [run, changeHash, hashAt_agree (h k (List.mem_singleton.2 rfl))]; split <;> rfl
  | hdel k _ => simp only [run, changeHash, hashAt_agree (h k (List.mem_singleton.2 rfl))]; split <;> rfl
  | hmget k _ => simp only [run, readHash, hashAt_agree (h k (List.mem_singleton.2 rfl))]; split <;> rfl
  | hgetall k => simp only [run, readHash, hashAt_agree (h k (List.mem_singleton.2 rfl))]; split <;> rfl
  | sadd k _ => simp only [run, changeSet, setAt_agree (h k (List.mem_singleton.2 rfl))]; split <;> rfl
  | srem k _ => simp only [run, changeSet, setAt_agree (h k (List.mem_singleton.2 rfl))]; split <;> rfl
  | smembers k => simp only [run, readSet, setAt_agree (h k (List.mem_singleton.2 rfl))]; split <;> rfl
  | scard k => simp only [run, readSet, setAt_agree (h k (List.mem_singleton.2 rfl))]; split <;> rfl

theorem changeHash_get? (f : KeyMap Bytes → Reply × KeyMap Bytes) (j : String) :
    (changeHash d key f).2.get? j = if j = key then
      match hashAt d key with
      | .ok h => if (f h).2.isEmpty then none else some (.hash (f h).2)
      | .error _ => d.get? j
      else d.get? j := by
  unfold changeHash
  cases hashAt d key with
  | ok h => exact get?_put _
  | error e => exact (ite_self _).symm

theorem changeSet_get? (f : KeyMap Unit → Reply × KeyMap Unit) (j : String) :
    (changeSet d key f).2.get? j = if j = key then
      match setAt d key with
      | .ok h => if (f h).2.isEmpty then none else some (.set (f h).2)
      | .error _ => d.get? j
      else d.get? j := by
  unfold changeSet
  cases setAt d key with
  | ok h => exact get?_put _
  | error e => exact (ite_self _).symm

theorem readHash_data (f : KeyMap Bytes → Reply) : (readHash d key f).2 = d := by
  unfold readHash; split <;> rfl

theorem readSet_data (f : KeyMap Unit → Reply) : (readSet d key f).2 = d := by
  unfold readSet; split <;> rfl

/-- A command leaves every other key alone. -/
theorem run_outside (c : KeyCommand) (hk : k ∉ c.keys) : (c.run d).2.get? k = d.get? k := by
  cases c with
  | countKeys ks => rfl
  | del ks => exact (get?_eraseAll d ks k).trans (if_neg hk)
  | hset _ j _ | hdel j _ =>
    simp only [run]
    rw [changeHash_get?, if_neg fun h => hk (List.mem_singleton.2 h)]
  | sadd j _ | srem j _ =>
    simp only [run]
    rw [changeSet_get?, if_neg fun h => hk (List.mem_singleton.2 h)]
  | hmget j _ | hgetall j => simp only [run, readHash_data]
  | smembers j | scard j => simp only [run, readSet_data]

/-- Stores that agree on the keys of a command agree on them afterwards. -/
theorem run_inside (c : KeyCommand) (h : Agree c.keys d₁ d₂) : Agree c.keys (c.run d₁).2 (c.run d₂).2 := by
  intro k hk
  cases c with
  | countKeys ks => exact h k hk
  | del ks => exact ((get?_eraseAll d₁ ks k).trans (if_pos hk)).trans ((get?_eraseAll d₂ ks k).trans (if_pos hk)).symm
  | hset _ j _ | hdel j _ =>
    simp only [run]
    rw [changeHash_get?, changeHash_get?, hashAt_agree (h j (List.mem_singleton.2 rfl)), h k hk]
  | sadd j _ | srem j _ =>
    simp only [run]
    rw [changeSet_get?, changeSet_get?, setAt_agree (h j (List.mem_singleton.2 rfl)), h k hk]
  | hmget j _ | hgetall j => simp only [run, readHash_data]; exact h k hk
  | smembers j | scard j => simp only [run, readSet_data]; exact h k hk

end KeyCommand
end Store
end SlotSql
