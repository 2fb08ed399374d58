import SlotSql.Proofs.Rows.Rivals
import SlotSql.Proofs.Session.Selection
import SlotSql.Proofs.Simulation.Shared
/-!
# Two sessions that write the same row

Two sessions over one cluster carry out statements for the same new row that leave existing rows as they are, and their
commands take turns. If one of them asks for the row and writes its hash before the other asks, it is the one that has
written the row, and the other has ignored it. The question and the hash are two commands, and nothing keeps others away in
between: if both ask first, both write, and the row can hold values of both.

Results:
* `Shared.Coherent.answers`: contexts over one cluster as worlds that answer as one store does.
* `ignoring_upserts`: what comes of each order of the commands.
* `both_written`: an order in which both statements report their row, which holds values of both.
-/
namespace SlotSql

open Cluster Store Dialogue

namespace Simulation

variable {ι : Type} [DecidableEq ι] {w : Shared ι} {x : ι} {d : Data} {cmd : Command} {k : KeyCommand} {slot : Nat}

namespace Shared

/-- A context over the cluster as a world. -/
def worlds (x : ι) : World (Shared ι) := fun t cmd w =>
  let (r, c) := (Context.execTo t cmd).run (w.view x)
  (r, w.after x c)

/-- Any command on keys of one slot is answered as by one store, also if it has too many words. -/
theorem Coherent.answers (h : w.Coherent d) {t : Target} (hs : OnSlot t cmd) : ∃ w',
    worlds x t cmd w = ((reply (w.contexts x).maxArgs cmd d).1, w') ∧
      w'.Coherent (reply (w.contexts x).maxArgs cmd d).2 ∧ ∀ y, (w'.contexts y).maxArgs = (w.contexts y).maxArgs := by
  obtain ⟨rfl, k, slot, hr, hk⟩ := hs
  by_cases hl : cmd.length ≤ (w.contexts x).maxArgs
  · have hserve : serve cmd d = reply (w.contexts x).maxArgs cmd d := by
      have htogether : Together cmd.keys := fun a ha b hb => by
        unfold Command.keys at ha hb
        rw [hr.keys] at ha hb
        exact (hk.2 a ha).trans (hk.2 b hb).symm
      unfold serve
      rw [if_pos htogether, reply_runs hr hl, reply_runs hr (Nat.le_refl _)]
    rw [← hserve]
    exact h.exec hr.name hl
  · have hlong := Nat.lt_of_not_le hl
    refine ⟨w.after x (w.view x), ?_, ?_, fun y => ?_⟩
    · unfold worlds Context.execTo
      simp only [exec_long (c := w.view x) hr hlong, reply_long hr hlong]
      rfl
    · rw [reply_long hr hlong]
      refine h.after ⟨⟨h.contexts x, rfl, rfl, rfl, rfl⟩, fun _ hk => hk⟩ h.holds h.filled
    · by_cases hy : y = x
      · subst hy
        rw [after_self]
        rfl
      · rw [after_other hy]

end Shared

/-- **One of two statements writes the row.** Two sessions carry out checked statements for one row that was not there; the
statements leave existing rows as they are, and their commands have not too many words. In whatever order the commands
come, each statement comes to its end. If one of them has the first two turns, so that it asks for the row and writes the
hash before the other one asks, then it reports its row, the other one reports that it has ignored it, and the store holds
what the one has written and no change of the other. If each has one of the first two turns, both report that they have
written the row. -/
theorem ignoring_upserts {w : Shared Bool} {st : Settings} {key : String} {t : Bool → Table} {now : Bool → Int}
    {up : Bool → Upsertion} {u : Bool → PreparedUpsertion} (h : w.Coherent d) (hst : st.Valid) (hd : Typed st d)
    (ht : ∀ x, (t x).Valid st) (hout : ∀ x, (t x).tablespace ≠ st.systemPrefix)
    (hu : ∀ x, (up x).prepare (t x) (now x) = .ok (u x)) (hmode : ∀ x, (u x).mode = .ignore)
    (hkey : ∀ x, (u x).key = some key) (hc : d.contains key = false)
    (hsend : ∀ x, (u x).Sendable (w.contexts x).maxArgs) (v : Bool → ScanEnv) (order : List Bool)
    {r : Race Bool (Shared Bool) (Except EngineError UpsertOutcome)}
    (hr : Race.run Shared.worlds ⟨w, fun x => (Upsertion.execute (v x) (u x)).run⟩ order = r) :
    (∀ x, Upsertion.commandCount (u x) ≤ order.count x → ∃ o, r.sides x = .done (.ok o)) ∧
    (∀ x rest a b, order = x :: x :: rest → r.sides x = .done a → r.sides (!x) = .done b →
      a = .ok (.written 1) ∧ b = .ok .ignored ∧
        ∃ d', r.state.Coherent d' ∧ Upsertion.Overwritten key (u x).values d d') ∧
    (∀ x rest, order = x :: (!x) :: rest → ∀ y a, r.sides y = .done a → a = .ok (.written 1)) := by
  have hrivals : Rivals st key (fun x => (w.contexts x).maxArgs) t u := {
    place := fun x => ⟨hst, ht x, hout x, Upsertion.prepare_parts (ht x) (hu x) (hkey x)⟩
    sound := fun x => Upsertion.prepare_sound (ht x) (hu x)
    sendable := hsend
    mode := hmode
    key := hkey }
  have hasks (x : Bool) : Asks OnSlot (fun _ => True) (Upsertion.execute (v x) (u x)) :=
    Upsertion.asks_execute (hrivals.sound x) (hkey x) (Table.rowCommands_onSlot (t x) key) (v x)
  have hanswers (x : Bool) (t : Target) (cmd : Command) (w' : Shared Bool) (d' : Data) (hcmd : OnSlot t cmd)
      (hw : w'.Coherent d' ∧ ∀ x, (w'.contexts x).maxArgs = (w.contexts x).maxArgs) :
      (Shared.worlds x t cmd w').1 = (Rivals.worlds (fun x => (w.contexts x).maxArgs) x t cmd d').1 ∧
        (Shared.worlds x t cmd w').2.Coherent (Rivals.worlds (fun x => (w.contexts x).maxArgs) x t cmd d').2 ∧
          ∀ y, ((Shared.worlds x t cmd w').2.contexts y).maxArgs = (w.contexts y).maxArgs := by
    obtain ⟨w'', h1, h2, h3⟩ := hw.1.answers (x := x) hcmd
    rw [hw.2 x] at h1 h2
    rw [h1]
    exact ⟨rfl, h2, fun y => (h3 y).trans (hw.2 y)⟩
  -- The race over the cluster comes to what the race over one store comes to.
  obtain ⟨hsides, hstate, -⟩ := Race.run_simulates Shared.worlds (Rivals.worlds fun x => (w.contexts x).maxArgs) hanswers
    ⟨w, fun x => (Upsertion.execute (v x) (u x)).run⟩ (Rivals.race u v d) hasks rfl ⟨h, fun _ => rfl⟩ order
  rw [hr] at hsides hstate
  refine ⟨fun x hx => ?_, fun x rest a b horder ha hb => ?_, fun x rest horder y a ha => ?_⟩
  · rw [hsides]
    exact hrivals.ends hd hx
  · subst horder
    rw [hsides] at ha hb
    obtain ⟨hwon, hignored⟩ := hrivals.won (v := v) hd hc rfl
    obtain ⟨hwritten, hleft⟩ := hwon a ha
    refine ⟨hwritten, hignored _ (Bool.not_ne_self x) b hb, _, hstate, ?_⟩
    rw [hwritten] at hleft
    obtain ⟨hd', heffect⟩ := Upsertion.yields_execute (hrivals.place x) (hrivals.sound x) (hkey x) (v x) d _ _ hd hleft
    exact ((Upsertion.effect_exact (ht x) hd hd' (hrivals.place x).row (hrivals.sound x)
      (Upsertion.prepare_distinct (hu x)) heffect).2.1 (.inr hc)).2
  · subst horder
    rw [hsides] at ha
    exact hrivals.tied hd hc rfl y ha

/-- How many words a command may have does not matter for what a context knows. -/
theorem Shared.Coherent.bounded {κ : Type} {w : Shared κ} (h : w.Coherent d) (m : Nat) :
    Shared.Coherent d { w with contexts := fun x => { w.contexts x with maxArgs := m } } where
  sound := h.sound
  contexts x := by
    obtain ⟨h1, h2, h3, h4, h5, h6, h7⟩ := h.contexts x
    exact ⟨h1, h2, h3, h4, h5, h6, h7⟩
  trusted x := h.trusted x
  holds := h.holds
  filled := h.filled

/-! ## Two notes of one number -/

open Session in
/-- Two statements for a note: one gives it a text, the other one tags. -/
def newNote (tags : String) (second : Bool) : Upsertion where
  table := noteTable.tableName
  columns := ["id", if second then "tags" else "text"]
  source := .values [.literal ⟨"7", false⟩, .literal ⟨if second then tags else "abc", true⟩]
  onDuplicate := .ignore

open Session in
/-- The statements with their values checked. -/
def newNotePrepared (tags : String) (second : Bool) : PreparedUpsertion :=
  ((newNote tags second).prepare noteTable 0).toOption.getD ⟨noteTable, [], [], none, "", .overwrite⟩

/-- The two statements take turns, each through one of the two contexts. -/
def noteRace (w : Shared Bool) (tags : String) (order : List Bool) :
    Race Bool (Shared Bool) (Except EngineError UpsertOutcome) :=
  Race.run Shared.worlds
    ⟨w, fun x => (Upsertion.execute ((Session.noteSession .empty).env 0) (newNotePrepared tags x)).run⟩ order

/-- The two contexts with short commands. -/
def shortContexts : Shared Bool := { twoContexts with contexts := fun x => { twoContexts.contexts x with maxArgs := 6 } }

/-- The statements are such as leave existing rows as they are, and both are for one row. -/
def ForOneNote (tags : String) : Prop := ∀ x, (newNote tags x).prepare Session.noteTable 0 = .ok (newNotePrepared tags x) ∧
  (newNotePrepared tags x).mode = .ignore ∧ (newNotePrepared tags x).key = some "{t::notes:7}"

theorem forOneNote_few : ForOneNote "x, y" := by
  intro x
  cases x <;> exact ⟨eq_ok_of_isOk (by decide +kernel) _, by decide +kernel, by decide +kernel⟩

theorem forOneNote_many : ForOneNote "a, b, c, d, e" := by
  intro x
  cases x <;> exact ⟨eq_ok_of_isOk (by decide +kernel) _, by decide +kernel, by decide +kernel⟩

/-- The second statement has the first two turns, so it has written its tags and no text. -/
theorem ignoring_upserts_notes : ∃ r, noteRace twoContexts "x, y" [true, true, false, true, true, false] = r ∧
    r.sides true = .done (.ok (.written 1)) ∧ r.sides false = .done (.ok .ignored) ∧ ∃ d', r.state.Coherent d' ∧
      Upsertion.Overwritten "{t::notes:7}" (newNotePrepared "x, y" true).values .empty d' ∧
      plainOf d' "{t::notes:7}" "text" = none := by
  have hsend (x : Bool) : (newNotePrepared "x, y" x).Sendable (twoContexts.contexts x).maxArgs := by
    cases x <;> exact ⟨by decide +kernel, by decide +kernel⟩
  obtain ⟨hends, hwon, -⟩ := ignoring_upserts coherent_twoContexts (by decide +kernel : Session.noteSettings.Valid)
    typed_empty (t := fun _ => Session.noteTable) (fun _ => by decide +kernel) (fun _ => by decide +kernel)
    (fun x => (forOneNote_few x).1) (fun x => (forOneNote_few x).2.1) (fun x => (forOneNote_few x).2.2) rfl hsend
    (fun _ => (Session.noteSession .empty).env 0) [true, true, false, true, true, false] rfl
  obtain ⟨a, ha⟩ := hends true (by decide +kernel)
  obtain ⟨b, hb⟩ := hends false (by decide +kernel)
  obtain ⟨h1, h2, d', h3, h4⟩ := hwon true _ _ _ rfl ha hb
  refine ⟨_, rfl, h1 ▸ ha, h2 ▸ hb, d', h3, h4, ?_⟩
  refine h4.kept "text" ?_ (by decide)
  decide +kernel

/-- If both statements ask for the note before one of them writes it, both report that they have written it. The note then
has the text of the one and the tags of the other. If the tags are too many for one command, it can also be that neither
reports the note: the second statement fails when it adds them, and the first one finds the note. -/
theorem both_written : ForOneNote "x, y" ∧ twoContexts.Coherent .empty ∧
    (∃ r, noteRace twoContexts "x, y" [false, true, false, true, true, true] = r ∧
      (∀ x, r.sides x = .done (.ok (.written 1))) ∧
      plainOf (r.state.server.dataOf (home (slotOf "{t::notes:7}"))) "{t::notes:7}" "text" = some (Utf8.bytes "abc") ∧
      membersOf (r.state.server.dataOf (home (slotOf "{t::notes:7}"))) "{t::notes:7}" "tags" = ["x", "y"]) ∧
    ForOneNote "a, b, c, d, e" ∧ shortContexts.Coherent .empty ∧
    ∃ r, noteRace shortContexts "a, b, c, d, e" [true, true, true, true, false] = r ∧
      r.sides true = .done (.error (ClusterError.tooManyArgs "SADD" 7 6).toEngine) ∧ r.sides false = .done (.ok .ignored) :=
  ⟨forOneNote_few, coherent_twoContexts,
    ⟨_, rfl, fun x => result?_eq_some.1 (by cases x <;> decide +kernel), by decide +kernel, by decide +kernel⟩,
    forOneNote_many, coherent_twoContexts.bounded 6,
    _, rfl, result?_eq_some.1 (by decide +kernel), result?_eq_some.1 (by decide +kernel)⟩

end Simulation
end SlotSql
