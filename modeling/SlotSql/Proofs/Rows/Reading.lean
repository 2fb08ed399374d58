import SlotSql.Proofs.Simulation.Feed
/-!
# Reading rows

What a store holds of a row, and that looking at the key of a row comes to just that: the attributes that a
plan reads are those in the hash and the sets of the row, and the plan accepts the row if they and the
parts of the key pass its filters.

Results:
* `outcome_fetch`: the attributes that are read are those that the store holds.
* `lookupIn_row`: what looking at the key of a row comes to.
* `lookupIn_agree`: it depends on the row and its sets only.
* `fetched_of_lookup`: what was read of a row that is found.
* `unfiltered_of_gone`: where there is no row, something is found only by a plan that filters no attribute.
-/
namespace SlotSql

open Cluster Dialogue

/-! ## What lies in a row -/

namespace Store

/-- The members of a set of a row, in order. -/
def membersOf (d : Data) (key field : String) : List String :=
  match d.get? (Key.set key field) with
  | some (.set s) => s.keys
  | _ => []

/-- What the hash of a row holds in a field. -/
def plainOf (d : Data) (key field : String) : Option Bytes :=
  match d.get? key with
  | some (.hash h) => h.get? field
  | _ => none

/-- What a store holds of an attribute of a row. -/
def fetchedOf (d : Data) (key : String) (f : Field) : Fetched :=
  if f.type.isSet then
    let ms := membersOf d key f.name
    if ms.isEmpty then .missing else .members ms
  else ((plainOf d key f.name).map Fetched.value).getD .missing

variable {d d' : Data} {key field : String}

theorem plainOf_eq {h : KeyMap Bytes} (hd : KeyCommand.hashAt d key = .ok h) : plainOf d key field = h.get? field := by
  unfold KeyCommand.hashAt at hd
  unfold plainOf
  split at hd
  · next he => cases hd; rw [he]; rfl
  · next he => cases hd; rw [he]
  · cases hd

theorem mem_membersOf {ms : KeyMap Unit} (hd : KeyCommand.setAt d (Key.set key field) = .ok ms) {x : String} :
    x ∈ membersOf d key field ↔ (ms.get? x).isSome = true := by
  rw [← KeyMap.mem_keys_iff]
  unfold KeyCommand.setAt at hd
  unfold membersOf
  split at hd
  · next he => cases hd; rw [he]; rfl
  · next he => cases hd; rw [he]
  · cases hd

theorem plainOf_congr (h : d'.get? key = d.get? key) : plainOf d' key field = plainOf d key field := by
  unfold plainOf
  rw [h]

theorem membersOf_congr (h : d'.get? (Key.set key field) = d.get? (Key.set key field)) :
    membersOf d' key field = membersOf d key field := by
  unfold membersOf
  rw [h]

/-- A row is a hash, and its sets are sets. -/
structure IsRow (d : Data) (key : String) (sets : List String) : Prop where
  hash : ∃ h, d.get? key = some (.hash h)
  set : ∀ f ∈ sets, d.get? (Key.set key f) = none ∨ ∃ s, d.get? (Key.set key f) = some (.set s)

end Store

/-- The names of the plain attributes that a plan reads. -/
def Plan.plainNames (p : Plan) : List String :=
  (p.fetches.filter fun f => !f.field.type.isSet).map fun f => f.field.name

namespace Simulation

open Store

variable {m : Nat} {d : Data} {key field : String} {p : Plan}

/-! ## Reading attributes -/

/-- The members of a set are read in order. -/
theorem outcome_smembers (hm : 2 ≤ m)
    (h : d.get? (Key.set key field) = none ∨ ∃ s, d.get? (Key.set key field) = some (.set s)) :
    outcome (fixedWorld (answers m d)) (Asking.smembers (Key.set key field)) () =
      (.ok (membersOf d key field), ()) := by
  have hreply : ((KeyCommand.smembers (Key.set key field)).run d).1 =
      .array ((membersOf d key field).map .ofText) := by
    show (KeyCommand.readSet d (Key.set key field) fun s => .array (s.keys.map .ofText)).1 = _
    unfold KeyCommand.readSet KeyCommand.setAt membersOf
    rcases h with h | ⟨s, h⟩ <;> rw [h]
    rfl
  have hcmd : outcome (fixedWorld (answers m d)) (Asking.command (.smembers (Key.set key field))) () =
      (.ok (.array ((membersOf d key field).map .ofText)), ()) := by
    rw [Asking.outcome_command]
    unfold fixedWorld answers
    rw [reply_runs Command.runs_smembers hm, hreply]
    rfl
  have hsorted : (membersOf d key field).mergeSort (fun a b => decide (a ≤ b)) = membersOf d key field := by
    refine List.mergeSort_of_pairwise ?_
    unfold membersOf
    rcases h with h | ⟨s, h⟩
    · rw [h]
      exact .nil
    · rw [h]
      exact s.keys_sorted.imp fun hlt => decide_eq_true (String.not_lt.1 (String.lt_asymm hlt))
  unfold Asking.smembers
  rw [outcome_bind_ok hcmd, Reply.toArray, outcome_bind_ok (Asking.outcome_liftExcept _),
    outcome_bind_ok (Asking.outcome_textItems _ _), outcome_pure, hsorted]

/-- Fields of a hash are read in order. -/
theorem outcome_hmget {h : KeyMap Bytes} (hd : KeyCommand.hashAt d key = .ok h) {fields : List String}
    (hf : fields ≠ []) (hm : 2 + fields.length ≤ m) :
    outcome (fixedWorld (answers m d)) (Asking.hmget key fields) () = (.ok (fields.map h.get?), ()) := by
  have hlen : (Command.hmget key fields).length ≤ m := by
    show (List.map Utf8.bytes ("HMGET" :: key :: fields)).length ≤ m
    rw [List.length_map, List.length_cons, List.length_cons]
    omega
  have hcmd : outcome (fixedWorld (answers m d)) (Asking.command (.hmget key fields)) () =
      (.ok (.array (fields.map fun f => ((h.get? f).map Reply.bulk).getD .nil)), ()) := by
    rw [Asking.outcome_command]
    unfold fixedWorld answers
    rw [reply_runs (Command.runs_hmget hf) hlen]
    show ((KeyCommand.readHash d key fun h => .array (fields.map fun f => ((h.get? f).map Reply.bulk).getD .nil)).1.answer, ()) = _
    unfold KeyCommand.readHash
    rw [hd]
    rfl
  have hvalues : outcome (fixedWorld (answers m d)) ((fields.map fun f =>
      ((h.get? f).map Reply.bulk).getD .nil).mapM Asking.fieldValue) () = (.ok (fields.map h.get?), ()) := by
    rw [List.mapM_map]
    refine outcome_mapM fun f _ => ?_
    show outcome _ (Asking.fieldValue (((h.get? f).map Reply.bulk).getD .nil)) () = _
    cases h.get? f <;> rfl
  unfold Asking.hmget
  rw [outcome_bind_ok hcmd, Reply.toArray, outcome_bind_ok (Asking.outcome_liftExcept _),
    if_neg (by simp)]
  exact hvalues

theorem lookup_zip_map {α : Type} (g : String → α) {names : List String} {n : String} (h : n ∈ names) :
    (names.zip (names.map g)).lookup n = some (g n) := by
  induction names with
  | nil => cases h
  | cons a names ih =>
    rw [List.map_cons, List.zip_cons_cons, KeyMap.lookup_cons_if]
    split
    · next he => rw [he]
    · next hne => exact ih ((List.mem_cons.1 h).resolve_left hne)

/-- The attributes that are read of a row, or where there is none, are those that the store holds. -/
theorem outcome_fetch {h : KeyMap Bytes} (hd : KeyCommand.hashAt d key = .ok h)
    (hs : ∀ f ∈ p.setNames, d.get? (Key.set key f) = none ∨ ∃ s, d.get? (Key.set key f) = some (.set s))
    (hm : 2 + p.plainNames.length ≤ m) : outcome (fixedWorld (answers m d)) (Scan.fetch p key) () =
      (.ok (p.fetches.map fun f => fetchedOf d key f.field), ()) := by
  have hplain : plainOf d key = h.get? := funext fun _ => plainOf_eq hd
  have hone {x : Fetched} {f : FetchFilter} (hf : f ∈ p.fetches)
      (hx : f.field.name ∈ p.plainNames → x = ((h.get? f.field.name).map .value).getD .missing) :
      outcome (fixedWorld (answers m d)) (if f.field.type.isSet then do
          let members ← Asking.smembers (Key.set key f.field.name)
          return if members.isEmpty then Fetched.missing else .members members
        else return x) () = (.ok (fetchedOf d key f.field), ()) := by
    unfold fetchedOf
    split
    · next hset =>
      have hmem : f.field.name ∈ p.setNames :=
        List.mem_map_of_mem (f := fun f : FetchFilter => f.field.name) (List.mem_filter.2 ⟨hf, hset⟩)
      rw [outcome_bind_ok (outcome_smembers (by omega) (hs _ hmem))]
      rfl
    · next hset =>
      have hmem : f.field.name ∈ p.plainNames :=
        List.mem_map_of_mem (f := fun f : FetchFilter => f.field.name)
          (List.mem_filter.2 ⟨hf, by simpa using hset⟩)
      rw [hx hmem, hplain, outcome_pure]
  have hvalue {f : FetchFilter} (hmem : f.field.name ∈ p.plainNames) :
      ((p.plainNames.zip (p.plainNames.map h.get?)).lookup f.field.name).bind id = h.get? f.field.name := by
    rw [lookup_zip_map _ hmem, Option.bind_some, id]
  unfold Scan.fetch
  simp only []
  split
  · next he =>
    have hnil : p.plainNames = [] := List.isEmpty_iff.1 he
    have hvalues : p.plainNames.map h.get? = [] := by rw [hnil]; rfl
    refine (outcome_bind_ok (outcome_pure [])).trans (outcome_mapM fun f hf => hone hf fun hmem => ?_)
    rw [hnil] at hmem
    cases hmem
  · next he =>
    have hne : p.plainNames ≠ [] := fun hn => he (List.isEmpty_iff.2 hn)
    refine (outcome_bind_ok (outcome_hmget hd hne hm)).trans
      (outcome_mapM fun f hf => hone hf fun hmem => ?_)
    split
    · next v hv =>
      rw [(hvalue hmem).symm.trans hv]
      rfl
    · next hv =>
      rw [(hvalue hmem).symm.trans hv]
      rfl

/-! ## Looking at a key -/

/-- What looking at the key of a row comes to. -/
theorem lookupIn_row (hr : IsRow d key p.setNames) (hm : 2 + p.plainNames.length ≤ m) {ts tb : String}
    {parts : List String} (hk : Key.parseRow? key = some (ts, tb, parts)) (hl : parts.length = p.keys.length)
    {a b : Bool} (ha : Scan.keyAccepted p parts = .ok a)
    (hb : Scan.attributesAccepted p (p.fetches.map fun f => fetchedOf d key f.field) = .ok b) :
    lookupIn (answers m d) p key =
      .ok (if a && b then some ⟨key, parts, p.fetches.map fun f => fetchedOf d key f.field⟩ else none) := by
  have hfetch : outcome (fixedWorld (answers m d)) (liftM (Scan.fetch p key) : OnRow (List Fetched)) () =
      (.ok (p.fetches.map fun f => fetchedOf d key f.field), ()) := by
    obtain ⟨h, hh⟩ := hr.hash
    have hd : KeyCommand.hashAt d key = .ok h := by
      unfold KeyCommand.hashAt
      rw [hh]
    rw [OnRow.outcome_liftM, outcome_fetch hd hr.set hm]
    rfl
  unfold lookupIn Scan.candidate?
  simp only [hk]
  rw [if_neg (by simpa using hl), ha]
  have hverdict (x : Bool) : outcome (fixedWorld (answers m d))
      (OnRow.ofExcept EvalError.toEngine (.ok x)) () = (.ok x, ()) := rfl
  rw [outcome_bind_ok (hverdict a)]
  cases a with
  | false => rfl
  | true =>
    rw [if_neg (by decide), outcome_bind_ok hfetch, hb, outcome_bind_ok (hverdict b)]
    cases b <;> rfl

/-- A key that is no row key is passed over. -/
theorem lookupIn_other (m : Nat) (d : Data) (p : Plan) (hk : Key.parseRow? key = none) :
    lookupIn (answers m d) p key = .ok none := by
  unfold lookupIn Scan.candidate?
  simp only [hk]
  rfl

/-- So is a row key of another number of parts. -/
theorem lookupIn_length (m : Nat) (d : Data) {ts tb : String} {parts : List String}
    (hk : Key.parseRow? key = some (ts, tb, parts)) (hl : parts.length ≠ p.keys.length) :
    lookupIn (answers m d) p key = .ok none := by
  unfold lookupIn Scan.candidate?
  simp only [hk]
  rw [if_pos hl]
  rfl

/-- A command that reads attributes of a row is answered alike by stores that agree on the row and its sets. -/
theorem answers_agree {sets : List String} {d' : Data} (h : d'.get? key = d.get? key)
    (hs : ∀ f ∈ sets, d'.get? (Key.set key f) = d.get? (Key.set key f)) {g : Target} {c : Command}
    (hc : ReadsRow sets key g c) : answers m d' c = answers m d c := by
  obtain ⟨kc, hr, hagree⟩ : ∃ kc, c.Runs kc ∧ KeyCommand.Agree kc.keys d' d := by
    rcases hc.2 with ⟨fields, hne, rfl⟩ | ⟨field, hf, rfl⟩
    · refine ⟨_, Command.runs_hmget hne, fun k hk => ?_⟩
      rw [List.mem_singleton.1 hk]
      exact h
    · refine ⟨_, Command.runs_smembers, fun k hk => ?_⟩
      rw [List.mem_singleton.1 hk]
      exact hs field hf
  unfold answers
  by_cases hl : c.length ≤ m
  · rw [reply_runs hr hl, reply_runs hr hl, KeyCommand.run_reply kc hagree]
  · rw [reply_long hr (Nat.lt_of_not_le hl), reply_long hr (Nat.lt_of_not_le hl)]

/-- Looking at a key depends on its row and the sets of the row only. -/
theorem lookupIn_agree {d' : Data} (h : d'.get? key = d.get? key)
    (hs : ∀ f ∈ p.setNames, d'.get? (Key.set key f) = d.get? (Key.set key f)) :
    lookupIn (answers m d') p key = lookupIn (answers m d) p key := by
  exact lookupIn_congr (fun c hc => answers_agree h hs hc) fun c hc => mild_answers hc

/-! ## Where there is no row -/

/-- Fields that do not fit into one command are not read. -/
theorem outcome_hmget_long {fields : List String} (hf : fields ≠ []) (hm : m < 2 + fields.length) :
    ∃ e, outcome (fixedWorld (answers m d)) (Asking.hmget key fields) () = (.error e, ()) := by
  have hlen : m < (Command.hmget key fields).length := by
    show m < (List.map Utf8.bytes ("HMGET" :: key :: fields)).length
    rw [List.length_map, List.length_cons, List.length_cons]
    omega
  have hcmd : ∃ e, outcome (fixedWorld (answers m d)) (Asking.command (.hmget key fields)) () = (.error e, ()) := by
    rw [Asking.outcome_command]
    unfold fixedWorld answers
    rw [reply_long (Command.runs_hmget hf) hlen]
    exact ⟨_, rfl⟩
  obtain ⟨e, he⟩ := hcmd
  exact ⟨e, by unfold Asking.hmget; rw [outcome_bind_error he]⟩

/-- The attributes of a row that is found have been read, and have passed. -/
theorem lookupIn_eq_some {c : Candidate} (h : lookupIn (answers m d) p key = .ok (some c)) :
    (∃ ts tb, Key.parseRow? key = some (ts, tb, c.parts)) ∧ c.parts.length = p.keys.length ∧
      (outcome (fixedWorld (answers m d)) (Scan.fetch p key) ()).1 = .ok c.fetched ∧
      Scan.attributesAccepted p c.fetched = .ok true := by
  have hverdict (y : Except EvalError Bool) : outcome (fixedWorld (answers m d))
      (OnRow.ofExcept EvalError.toEngine y) () = (y.mapError fun e => .skip e.toEngine, ()) := by
    cases y <;> rfl
  unfold lookupIn Scan.candidate? at h
  split at h
  · next ts tb parts hparse =>
    split at h
    · cases h
    · next hlen =>
      cases hk : Scan.keyAccepted p parts with
      | error e =>
        rw [hk, outcome_bind_error (hverdict (.error e))] at h
        cases h
      | ok a =>
        rw [hk, outcome_bind_ok (hverdict (.ok a))] at h
        split at h
        · cases h
        · cases hf : outcome (fixedWorld (answers m d)) (Scan.fetch p key) () with
          | mk r u =>
            have hfetch : outcome (fixedWorld (answers m d)) (liftM (Scan.fetch p key) : OnRow (List Fetched)) () =
                (r.mapError RowError.ofCluster, u) := by
              rw [OnRow.outcome_liftM, hf]
            cases r with
            | error e =>
              rw [outcome_bind_error hfetch] at h
              cases h
            | ok fetched =>
              rw [outcome_bind_ok hfetch] at h
              cases ha : Scan.attributesAccepted p fetched with
              | error e =>
                rw [ha, outcome_bind_error (hverdict (.error e))] at h
                cases h
              | ok b =>
                rw [ha, outcome_bind_ok (hverdict (.ok b))] at h
                cases b with
                | true =>
                  cases h
                  exact ⟨⟨ts, tb, hparse⟩, not_not.1 hlen, rfl, ha⟩
                | false => cases h
  · cases h

/-- If attributes are read, their names fit into one command. -/
theorem fits_of_fetch (hm : 2 ≤ m) {fetched : List Fetched}
    (h : (outcome (fixedWorld (answers m d)) (Scan.fetch p key) ()).1 = .ok fetched) : 2 + p.plainNames.length ≤ m := by
  by_contra hlong
  have hne : p.plainNames ≠ [] := fun hnil => by
    rw [hnil] at hlong
    exact hlong hm
  obtain ⟨e, he⟩ : ∃ e, outcome (fixedWorld (answers m d)) (Asking.hmget key p.plainNames) () = (.error e, ()) :=
    outcome_hmget_long hne (Nat.lt_of_not_le hlong)
  unfold Scan.fetch at h
  simp only [] at h
  split at h
  · next hnil => exact hne (List.isEmpty_iff.1 hnil)
  · unfold Plan.plainNames at he
    rw [outcome_bind_error he] at h
    cases h

/-- What was read of a row that is found is what lies in it. -/
theorem fetched_of_lookup (hm : 2 ≤ m) {h : KeyMap Bytes} (hd : KeyCommand.hashAt d key = .ok h)
    (hs : ∀ f ∈ p.setNames, d.get? (Key.set key f) = none ∨ ∃ s, d.get? (Key.set key f) = some (.set s))
    {c : Candidate} (hc : lookupIn (answers m d) p key = .ok (some c)) :
    c.fetched = p.fetches.map fun f => fetchedOf d key f.field := by
  obtain ⟨-, -, hfetch, -⟩ := lookupIn_eq_some hc
  rw [outcome_fetch hd hs (fits_of_fetch hm hfetch)] at hfetch
  exact (Except.ok.inj hfetch).symm

theorem allHold_eq_true {α : Type} {holds : α → Except EvalError Bool} {as : List α}
    (h : Filter.allHold holds as = .ok true) : ∀ a ∈ as, holds a = .ok true := by
  induction as with
  | nil => simp
  | cons a as ih =>
    unfold Filter.allHold at h
    cases ha : holds a with
    | error e => rw [ha] at h; cases h
    | ok b =>
      rw [ha] at h
      cases b with
      | false => cases h
      | true =>
        rintro x (_ | ⟨_, hx⟩)
        · exact ha
        · exact ih h x hx

/-- Where there is neither a row nor a set of one, a plan finds something only if it filters no attribute. -/
theorem unfiltered_of_gone (hm : 2 ≤ m) (hd : d.get? key = none)
    (hs : ∀ f ∈ p.setNames, d.get? (Key.set key f) = none) {c : Candidate}
    (h : lookupIn (answers m d) p key = .ok (some c)) : ∀ g ∈ p.fetches, g.chain = [] := by
  obtain ⟨-, -, -, hacc⟩ := lookupIn_eq_some h
  have hhash : KeyCommand.hashAt d key = .ok .empty := by
    unfold KeyCommand.hashAt
    rw [hd]
  have hmissing (g : FetchFilter) (hg : g ∈ p.fetches) : fetchedOf d key g.field = .missing := by
    unfold fetchedOf
    split
    · next hset =>
      have hmem : g.field.name ∈ p.setNames :=
        List.mem_map_of_mem (f := fun g : FetchFilter => g.field.name) (List.mem_filter.2 ⟨hg, hset⟩)
      unfold membersOf
      rw [hs _ hmem]
      rfl
    · unfold plainOf
      rw [hd]
      rfl
  rw [fetched_of_lookup hm hhash (fun f hf => .inl (hs f hf)) h] at hacc
  intro g hg
  have hpass := allHold_eq_true hacc (g, fetchedOf d key g.field) (by
    rw [List.zip_map_right, List.zip, List.zipWith_self, List.map_map]
    exact List.mem_map_of_mem (f := fun g : FetchFilter => (g, fetchedOf d key g.field)) hg)
  rw [hmissing g hg] at hpass
  have hnil : g.chain.isEmpty = true := Except.ok.inj hpass
  exact List.isEmpty_iff.1 hnil

end Simulation
end SlotSql
