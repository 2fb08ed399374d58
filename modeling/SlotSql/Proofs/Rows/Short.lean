import SlotSql.Proofs.Rows.Rivals
import SlotSql.Proofs.Rows.Written
import SlotSql.Proofs.Scan.Asked
/-!
# How long commands are

The longest command of a plan reads the plain attributes of a row, and that of a deletion removes a row with its sets. What
the longest command of an upsertion is depends on its values: it writes the plain attributes, or the members of a set.

Results:
* `Plan.asked_short`: the commands of a plan have no more words than `Plan.words`.
* `asks_execute_short`: those of an upsertion have no more than `PreparedUpsertion.Brief` allows.
-/
namespace SlotSql

open Cluster Dialogue

/-- Commands of no more than `n` words. -/
def Short (n : Nat) (_ : Target) (c : Command) : Prop := c.length ≤ n

variable {n : Nat} {key : String}

namespace Cluster.Command

theorem length_ofTexts (ws : List String) : (ofTexts ws).length = ws.length := List.length_map _

@[simp] theorem length_del (keys : List String) : (del keys).length = 1 + keys.length := by
  rw [del, length_ofTexts, List.length_cons]
  omega

@[simp] theorem length_hmget (key : String) (fields : List String) : (hmget key fields).length = 2 + fields.length := by
  rw [hmget, length_ofTexts, List.length_cons, List.length_cons]
  omega

@[simp] theorem length_sadd (key : String) (members : List String) : (sadd key members).length = 2 + members.length := by
  rw [sadd, length_ofTexts, List.length_cons, List.length_cons]
  omega

@[simp] theorem length_srem (key : String) (members : List String) : (srem key members).length = 2 + members.length := by
  rw [srem, length_ofTexts, List.length_cons, List.length_cons]
  omega

end Cluster.Command

/-! ## Plans -/

namespace Plan

variable {p : Plan}

/-- The words of the longest command of a plan: a page of keys takes six, and reading a row takes its key and the names of
the plain attributes. -/
def words (p : Plan) : Nat := max 6 (2 + p.plainNames.length)

/-- The words of the longest command of a deletion: a row is removed with all its sets. -/
def deletionWords (p : Plan) : Nat := max p.words (2 + p.table.setFields.length)

theorem rowAsked_short (h : p.words ≤ n) (key : String) : p.RowAsked (Short n) key := by
  unfold words at h
  refine ⟨fun _ => ?_, fun f _ _ => ?_⟩
  · show (Command.hmget key p.plainNames).length ≤ n
    rw [Command.length_hmget]
    omega
  · show 2 ≤ n
    omega

/-- No command of a plan is longer. -/
theorem asked_short (h : p.words ≤ n) (v : ScanEnv) : p.Asked (Short n) v := by
  have hwords := h
  unfold words at hwords
  refine ⟨fun i cursor => ?_, fun key _ => ?_, rowAsked_short h⟩
  · show 6 ≤ n
    omega
  · show 2 ≤ n
    omega

theorem del_short (h : p.deletionWords ≤ n) (key : String) : Short n .active (.del (p.table.footprint key)) := by
  unfold deletionWords at h
  show (Command.del (p.table.footprint key)).length ≤ n
  rw [Command.length_del, Table.footprint, List.length_cons, List.length_map]
  omega

end Plan

/-! ## Upsertions -/

namespace Upsertion

/-- The commands of assignments to a row have no more than `n` words: what reads the old values, what writes the new ones,
and what changes each set. -/
structure Brief (n : Nat) (as : List PreparedAssignment) : Prop where
  old : 2 + (as.filter needsOld).length ≤ n
  new : 2 + 2 * (as.filter fun a => !a.field.type.isSet).length ≤ n
  sets : ∀ a ∈ as, a.field.type.isSet = true → (setMembers a.value).length + 2 ≤ n

variable {a : PreparedAssignment} {as : List PreparedAssignment} {values : List (Field × String)} {value : String}

theorem asks_replaceSet_short (field : String) (h : (setMembers value).length + 2 ≤ n) :
    Asks (Short n) (fun _ => True) (replaceSet key field value) := by
  refine (Engine.asks_liftM (asks_del ?_)).bind fun _ _ =>
    (Engine.asks_liftM (asks_sadd fun _ => ?_)).bind fun _ _ => .pure trivial
  · show (Command.del _).length ≤ n
    rw [Command.length_del, List.length_singleton]
    omega
  · show (Command.sadd _ _).length ≤ n
    rw [Command.length_sadd]
    omega

theorem asks_hmset_short {pairs : List (String × Bytes)} (h : 2 + 2 * pairs.length ≤ n) :
    Asks (Short n) (fun _ => True) (Asking.hmset key pairs) :=
  (Asks.command (show (Command.hmset key pairs).length ≤ n by rwa [Command.length_hmset])).bind fun _ _ => .pure trivial

/-- Writing a row asks for one command with its plain attributes and two for each set. -/
theorem asks_writeRow_short (hh : 2 + 2 * (hashFields values).length ≤ n) (hs : SetsFit n values) :
    Asks (Short n) (fun _ => True) (writeRow key values) := by
  refine (Engine.asks_liftM (asks_hmset_short hh)).bind fun _ _ => Asks.forM fun fx hfx => ?_
  obtain ⟨hmem, hset⟩ := List.mem_filter.1 hfx
  exact asks_replaceSet_short _ (hs fx hmem hset)

theorem asks_assignSet_short (h : (setMembers a.value).length + 2 ≤ n) :
    Asks (Short n) (fun _ => True) (assignSet key a) := by
  unfold assignSet
  simp only []
  split
  · exact asks_replaceSet_short _ h
  · refine (Engine.asks_liftM (asks_sadd fun _ => ?_)).bind fun _ _ => .pure trivial
    show (Command.sadd _ _).length ≤ n
    rw [Command.length_sadd]
    omega
  · refine (Engine.asks_liftM (asks_srem fun _ => ?_)).bind fun _ _ => .pure trivial
    show (Command.srem _ _).length ≤ n
    rw [Command.length_srem]
    omega

/-- Assignments leave one value to write for each plain attribute that they name. -/
theorem asks_assign_short (old : List (String × Option Bytes))
    (h : ∀ a ∈ as, a.field.type.isSet = true → (setMembers a.value).length + 2 ≤ n) :
    Asks (Short n) (fun pairs => pairs.length = (as.filter fun a => !a.field.type.isSet).length) (assign key old as) := by
  induction as with
  | nil => exact .pure rfl
  | cons a as ih =>
    have ih := ih fun b hb => h b (List.mem_cons_of_mem _ hb)
    unfold assign
    split
    · next hset =>
      rw [List.filter_cons_of_neg (by simp [hset])]
      exact (asks_assignSet_short (h a List.mem_cons_self hset)).bind fun _ _ => ih
    · next hset =>
      rw [List.filter_cons_of_pos (by simp [hset])]
      have hrest (x : String) : Asks (Short n) (fun pairs : List (String × Bytes) => pairs.length =
          (a :: as.filter fun a => !a.field.type.isSet).length) (do
            let pairs ← assign key old as
            return (a.field.name, Utf8.bytes x) :: pairs : Engine _) :=
        ih.bind fun pairs hp => .pure (by rw [List.length_cons, List.length_cons, hp])
      split
      · exact (Asks.pure (Q := fun _ => True) trivial).bind fun x _ => hrest x
      · exact (Asks.mk (Q := fun _ => True) fun _ _ => trivial).bind fun x _ => hrest x

theorem asks_updateRow_short (h : Brief n as) : Asks (Short n) (fun _ => True) (updateRow key as) := by
  have hrest (old : List (Option Bytes)) : Asks (Short n) (fun _ => True) (do
      let pairs ← assign key (((as.filter needsOld).map fun a => a.field.name).zip old) as
      if !pairs.isEmpty then liftM (Asking.hmset key pairs) : Engine Unit) := by
    refine (asks_assign_short _ h.sets).bind fun pairs hp => ?_
    split
    · exact Engine.asks_liftM (asks_hmset_short (hp ▸ h.new))
    · exact .pure trivial
  unfold updateRow
  simp only []
  split
  · exact (Asks.pure (Q := fun _ => True) trivial).bind fun _ _ => hrest _
  · refine (Engine.asks_liftM (asks_hmget ?_)).bind fun _ _ => hrest _
    show (Command.hmget _ _).length ≤ n
    rw [Command.length_hmget, List.length_map]
    exact h.old

end Upsertion

namespace PreparedUpsertion

variable {u : PreparedUpsertion}

/-- The commands of an upsertion have no more than `n` words. One that means several rows finds them with a plan first. -/
structure Brief (st : Settings) (n : Nat) (u : PreparedUpsertion) : Prop where
  exist : 2 ≤ n
  row : u.key.isSome = true → u.Sendable n
  update : ∀ as, u.mode = .update as → Upsertion.Brief n as
  plan : u.key = none → ∀ p, Plan.ofConditions st u.table u.conditions = .ok p → p.words ≤ n

end PreparedUpsertion

/-- No command of an upsertion is longer. -/
theorem Upsertion.asks_execute_short {u : PreparedUpsertion} {v : ScanEnv} (h : u.Brief v.settings n) :
    Asks (Short n) (fun _ => True) (execute v u) := by
  have hexists (key : String) : Asks (Short n) (fun _ => True) (liftM (Asking.existsKey key) : Engine Bool) :=
    Engine.asks_liftM (asks_existsKey h.exist)
  have hwrite (key : String) (hkey : u.key = some key) : Asks (Short n) (fun _ => True) (writeRow key u.values) :=
    have hrow := h.row (hkey ▸ rfl)
    asks_writeRow_short hrow.hash hrow.sets
  unfold execute
  split
  · exact .throw _
  · next key _ hkey => exact (hwrite key hkey).bind fun _ _ => .pure trivial
  · next key _ hkey =>
    refine (hexists key).bind fun b _ => ?_
    split
    · exact .pure trivial
    · exact (hwrite key hkey).bind fun _ _ => .pure trivial
  · next as key hmode hkey =>
    refine (hexists key).bind fun b _ => ?_
    split
    · exact (asks_updateRow_short (h.update as hmode)).bind fun _ _ => .pure trivial
    · exact (Asks.mk (Q := fun _ => True) fun _ _ => trivial).bind fun _ _ =>
        (hwrite key hkey).bind fun _ _ => .pure trivial
  · next as hmode hkey =>
    have htargets : Asks (Short n) (fun _ => True) (targets v u) := by
      rw [targets_eq]
      split
      · exact .throw _
      · next p hp => exact (asks_matchingKeys (p.asked_short (h.plan hkey p hp) v)).alone _
    exact htargets.bind fun keys _ => (Asks.forM fun key _ => asks_updateRow_short (h.update as hmode)).bind
      fun _ _ => .pure trivial
  · exact .throw _

end SlotSql
