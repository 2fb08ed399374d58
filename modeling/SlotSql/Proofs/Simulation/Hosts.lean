import SlotSql.Proofs.Rows.Reading
import SlotSql.Proofs.Scan.Grounds
import SlotSql.Proofs.Simulation.Rows
/-!
# Pages at any time

A scan that is under way holds cursors of masters whose keys have changed since. A master answers to any cursor,
be it with a page or with an error: the keys that it names are keys of its shard, and no data change. So in
a healthy context a scan stands on firm grounds at any time, whatever state it is in.

Results:
* `Hosts.page`: a page of any cursor.
* `grounds`: a healthy context over a store of some kind are grounds to stand on.
* `Hosts.info`: what the nodes say about themselves.
-/
namespace SlotSql

open Cluster Store

namespace Simulation

variable {m top i j : Nat} {t : Topology} {d : Data} {c : Context Simulation Link} {s : Simulation} {p : Plan}
  {v : ScanEnv} {cursor count : Nat} {pattern : String}

/-! ## Pages -/

/-- What a shard answers to any request: a page of its keys, or that the cursor is none. -/
theorem Shard.scan_any {h : Shard} (hf : h.Fresh) (r : ScanRequest) : ∃ reply h', h.scan r = (reply, h') ∧ h'.Fresh ∧
    h' = { h with cursors := h'.cursors, nextCursor := h'.nextCursor } ∧
      ((∃ q : Asking.Page, reply = q.reply ∧ ∀ k ∈ q.keys, k ∈ h.data.keys ∧ Glob.matchesKey r.pattern k = true) ∨
        reply = .error "ERR invalid cursor") := by
  have hpage {ks : List String} (hr : h.Resumes r.cursor ks) : ∃ reply h', h.scan r = (reply, h') ∧ h'.Fresh ∧
      h' = { h with cursors := h'.cursors, nextCursor := h'.nextCursor } ∧
        ((∃ q : Asking.Page, reply = q.reply ∧ ∀ k ∈ q.keys, k ∈ h.data.keys ∧ Glob.matchesKey r.pattern k = true) ∨
          reply = .error "ERR invalid cursor") := by
    obtain ⟨q, h', h1, h2, h3, h4, -⟩ := Shard.scan_resumes hf hr
    refine ⟨_, h', h1, h3, h4, .inl ⟨q, rfl, fun k hk => ?_⟩⟩
    rw [h2] at hk
    obtain ⟨hk, hmatch⟩ := List.mem_filter.1 hk
    exact ⟨hr.suffix.subset (List.mem_of_mem_take hk), hmatch⟩
  by_cases h0 : r.cursor = 0
  · exact hpage (.inl ⟨h0, rfl⟩)
  · cases hk : h.cursors.lookup r.cursor with
    | some k => exact hpage (.inr ⟨h0, k, hk, rfl⟩)
    | none =>
      refine ⟨.error "ERR invalid cursor", h, ?_, hf, rfl, .inr rfl⟩
      unfold Shard.scan
      simp only [if_neg h0, hk, Option.map_none]

theorem ScanRequest.read_any (hp : 0 < count) (hn : count ≤ Number.max64) :
    ScanRequest.read [toString cursor, "MATCH", pattern, "COUNT", toString count] = .error (.error "ERR invalid cursor") ∨
      ∃ cursor', ScanRequest.read [toString cursor, "MATCH", pattern, "COUNT", toString count] =
        .ok { cursor := cursor', pattern, count } := by
  have h1 : Text.asciiUpper "MATCH" = "MATCH" := by decide +kernel
  have h2 : Text.asciiUpper "COUNT" = "COUNT" := by decide +kernel
  unfold ScanRequest.read
  simp only []
  rw [if_neg (by simp)]
  cases Number.nat64? (toString cursor) with
  | none => exact .inl rfl
  | some cursor' =>
    simp only [ScanRequest.options, h1, h2, Number.nat64?_toString hn, if_pos hp]
    exact .inr ⟨cursor', rfl⟩

/-- What a master answers to a scan with any cursor, and what becomes of its shard. -/
theorem Sound.handle_scan (hs : s.Sound) (hj : j < 3) (hp : 0 < count) (hn : count ≤ Number.max64) {h : Shard}
    (hh : s.shards[j]? = some h) : ∃ reply h', s.handle j (.scan cursor pattern count) =
      (reply, { s with shards := s.shards.set j h' }) ∧ h'.Fresh ∧
        h' = { h with cursors := h'.cursors, nextCursor := h'.nextCursor } ∧
        ((∃ q : Asking.Page, reply = q.reply ∧ ∀ k ∈ q.keys, k ∈ h.data.keys ∧ Glob.matchesKey pattern k = true) ∨
          reply = .error "ERR invalid cursor") := by
  have hf : h.Fresh := hs.cursors h (List.mem_of_getElem? hh)
  have hlt : j < s.nodes.length := Nat.lt_of_lt_of_le hj hs.nodes
  have hshard := (hs.node j _ (List.getElem?_eq_getElem hlt)).2.2.2.2.2 hj
  have hname : (Command.scan cursor pattern count).name = "SCAN" :=
    (Command.name_ofTexts ..).trans (by decide +kernel)
  have hargs : (((Command.scan cursor pattern count).words.map fun w => (Utf8.decodeLossy w, w)).drop 1).map
      Prod.fst = [toString cursor, "MATCH", pattern, "COUNT", toString count] := by
    rw [← List.map_drop]
    exact Command.texts_ofTexts ..
  unfold handle
  simp only [hname, hargs]
  rw [if_neg (by decide), if_neg (by decide), if_pos trivial]
  unfold scan
  have hread : ScanRequest.read [toString cursor, "MATCH", pattern, "COUNT", toString count] = _ ∨ _ :=
    ScanRequest.read_any hp hn
  rcases hread with hr | ⟨cursor', hr⟩
  · refine ⟨.error "ERR invalid cursor", h, ?_, hf, rfl, .inr rfl⟩
    rw [hr]
    show (_, s) = (_, { s with shards := s.shards.set j h })
    obtain ⟨hlt', hget⟩ := List.getElem?_eq_some_iff.1 hh
    rw [← hget, List.set_getElem_self]
  · obtain ⟨reply, h', h1, h2, h3, h4⟩ := Shard.scan_any hf { cursor := cursor', pattern, count }
    refine ⟨reply, h', ?_, h2, h3, h4⟩
    simp only [hr, List.getElem?_eq_getElem hlt, Option.map_some, Option.getD_some, hshard, hh, h1]

/-! ## Contexts -/

/-- A healthy context with a topology that holds what a store holds, whatever cursors its masters have given
out. -/
def Hosts (m : Nat) (t : Topology) (d : Data) (c : Context Simulation Link) : Prop := ∃ top, Serves m top t d c

theorem Serves.hosts (hc : Serves m top t d c) : Hosts m t d c := ⟨top, hc⟩

theorem Hosts.candidate (hc : Hosts m t d c) (p : Plan) (key : String) : ∃ c',
    Dialogue.outcome Context.world (Scan.candidate? p key) c =
      ((lookupIn (answers m d) p key).mapError .skip, c') ∧ Hosts m t d c' := by
  obtain ⟨top, hc⟩ := hc
  obtain ⟨c', h1, h2, -⟩ := hc.candidate p key
  exact ⟨c', h1, top, h2⟩

theorem Hosts.existsKey (hc : Hosts m t d c) (hm : 2 ≤ m) (key : String) : ∃ c',
    Dialogue.outcome Context.world (Asking.existsKey key) c = (.ok (d.contains key), c') ∧ Hosts m t d c' := by
  obtain ⟨top, hc⟩ := hc
  obtain ⟨c', h1, h2, -⟩ := hc.existsKey hm key
  exact ⟨c', h1, top, h2⟩

/-- A page of any cursor of a master names keys of the store, and changes nothing. -/
theorem Hosts.page (hc : Hosts m t d c) (hm : 6 ≤ m) (hp : 0 < count) (hn : count ≤ Number.max64)
    (hi : i ∈ t.masters) (cursor : Nat) (pattern : String) : ∃ r c',
    Dialogue.outcome Context.world (Asking.scan i cursor pattern count) c = (r, c') ∧ Hosts m t d c' ∧
      ∀ q, r = .ok q → ∀ k ∈ q.keys, d.contains k = true ∧ Glob.matchesKey pattern k = true := by
  obtain ⟨top, hc⟩ := hc
  obtain ⟨j, hj, hport⟩ := (hc.healthy.masters.2 i).1 (hc.topology ▸ hi)
  obtain ⟨n, hn', hport⟩ := Option.map_eq_some_iff.1 hport
  have hlt : j < c.server.nodes.length := Nat.lt_of_lt_of_le hj hc.healthy.sound.nodes
  have hs := hc.healthy.sound.noted j (.scan cursor pattern count)
  have hlen := length_noted (s := c.server) j (.scan cursor pattern count)
  obtain ⟨h, hh, -⟩ := hc.healthy.sound.shard hj
  have hname : (Command.scan cursor pattern count).name = "SCAN" :=
    (Command.name_ofTexts ..).trans (by decide +kernel)
  obtain ⟨reply, h', h1, h2, h3, h4⟩ : ∃ reply h', ((c.server.noted j (.scan cursor pattern count)).handle j
      (.scan cursor pattern count)) = (reply, _) ∧ _ := hs.handle_scan hj hp hn hh
  obtain ⟨c', g1, g2, g3, g4, -, g6⟩ := send_healthy hc.healthy hn' hport hlt (by rw [hname]; decide) h1
    (hs.setShard hh h2 h3) hlen rfl
  have hplain : reply.redirect? = none ∧ reply.isNoAuth = false := by
    rcases h4 with ⟨q, rfl, -⟩ | rfl
    · exact ⟨rfl, rfl⟩
    · decide +kernel
  have hvalid : (Command.scan cursor pattern count).validate c.maxArgs = .ok () := by
    have hwords : (Command.scan cursor pattern count).length = 6 := rfl
    unfold Command.validate
    rw [if_neg (by rintro ⟨⟩), if_neg (by rw [hwords, hc.maxArgs]; omega)]
  have hexec : (Context.execOn i (.scan cursor pattern count)).run c = (reply.answer, c') := by
    unfold Context.execOn Context.dispatch
    rw [Context.step_bind_ok (Context.step_get c), hvalid, Context.step_bind_ok (Context.step_lift _ _)]
    exact Context.deliver_of_answer g1 hplain.1 hplain.2
  have hshards : c'.server.shards = c.server.shards.set j h' := by rw [g3]; rfl
  have hserves : Hosts m t d c' := by
    refine ⟨max top h'.nextCursor, g2, g4.trans hc.topology, ?_, g6.trans hc.maxArgs, fun sh hsh => ?_⟩
    · intro k
      rw [← hc.holds k, g2.sound.value?, hc.healthy.sound.value?]
      unfold Simulation.dataOf
      rw [hshards, List.getElem?_set]
      split
      · next he =>
        rw [← he, hh, if_pos (List.getElem?_eq_some_iff.1 hh).1, Option.map_some, Option.map_some, h3]
      · rfl
    · rw [hshards] at hsh
      rcases List.mem_or_eq_of_mem_set hsh with hsh | rfl
      · exact Nat.le_trans (hc.room sh hsh) (Nat.le_max_left _ _)
      · exact Nat.le_max_right _ _
  have hkey {k : String} (hk : k ∈ h.data.keys) : d.contains k = true := by
    have hdata : c.server.dataOf j = h.data := by
      unfold Simulation.dataOf
      rw [hh]
      rfl
    have hplaced := hc.healthy.sound.placed j h hh k hk
    rw [KeyMap.contains, ← hc.holds k, hc.healthy.sound.value?, hplaced, hdata]
    exact KeyMap.mem_keys_iff.1 hk
  have hanswer : (∃ q : Asking.Page, reply.answer = .ok q.reply ∧
      ∀ k ∈ q.keys, d.contains k = true ∧ Glob.matchesKey pattern k = true) ∨ ∃ e, reply.answer = .error e := by
    rcases h4 with ⟨q, rfl, hq⟩ | rfl
    · exact .inl ⟨q, rfl, fun k hk => ⟨hkey (hq k hk).1, (hq k hk).2⟩⟩
    · exact .inr ⟨_, rfl⟩
  obtain ⟨r, e1, e2⟩ := Asking.outcome_scan_keys (w := Context.world) (i := i) (s := c)
    (P := fun keys => ∀ k ∈ keys, d.contains k = true ∧ Glob.matchesKey pattern k = true) hexec hanswer
  exact ⟨r, c', e1, hserves, e2⟩

/-- What a node says of its status changes nothing but what is noted about it. -/
theorem Hosts.info (hc : Hosts m t d c) (hm : 2 ≤ m) (i : Nat) (part : Option String) : ∃ r c' t',
    (Context.info i part : Step Simulation Link Info).run c = (r, c') ∧ Hosts m t' d c' := by
  obtain ⟨top, hc⟩ := hc
  have hname : (Command.info part).name = "INFO" :=
    (Command.name_ofTexts ..).trans (by decide +kernel)
  have hvalid : (Command.info part).validate c.maxArgs = .ok () := by
    have hwords : (Command.info part).length ≤ 2 := by
      show (("INFO" :: part.toList).map Utf8.bytes).length ≤ 2
      cases part <;> simp
    unfold Command.validate
    rw [if_neg (by rintro ⟨⟩), if_neg (by rw [hc.maxArgs]; omega)]
  have hexec : ∃ r c', (Context.execOn i (.info part) : Step Simulation Link Reply).run c = (r, c') ∧
      Serves m top t d c' := by
    unfold Context.execOn Context.dispatch
    rw [Context.step_bind_ok (Context.step_get c), hvalid, Context.step_bind_ok (Context.step_lift _ _)]
    by_cases hi : i < c.topology.config.nodes.length
    · obtain ⟨n, j, hn, hport, hj⟩ := hc.healthy.at hi
      have hs := hc.healthy.sound.noted j (.info part)
      obtain ⟨text, h1⟩ : ∃ text, (c.server.noted j (.info part)).handle j (.info part) =
          (.ofText text, c.server.noted j (.info part)) := by
        unfold handle
        simp only [hname]
        rw [if_neg (by decide), if_pos trivial]
        exact ⟨_, rfl⟩
      obtain ⟨c', g1, g2, g3, g4, -, g6⟩ := send_healthy hc.healthy hn hport hj (by rw [hname]; decide) h1 hs
        (length_noted (s := c.server) j (.info part)) rfl
      refine ⟨_, c', Context.deliver_of_answer g1 rfl rfl, g2, g4.trans hc.topology, fun k => ?_, g6.trans hc.maxArgs,
        by rw [g3]; exact hc.room⟩
      rw [g3]
      exact hc.holds k
    · -- The node is not configured.
      have hnode : (Context.connection i : Step Simulation Link Link).run c =
          (.error (.unknownNode ("#" ++ toString i)), c) := by
        unfold Context.connection Topology.node
        rw [Context.step_bind_ok (Context.step_get c), List.getElem?_eq_none (Nat.le_of_not_lt hi)]
        exact Context.step_bind_error (Context.step_lift _ _)
      have hsend : (Context.send i (.info part) : Step Simulation Link Reply).run c =
          (.error (.unknownNode ("#" ++ toString i)), c) := by
        unfold Context.send
        rw [Context.step_bind_error hnode]
      exact ⟨_, c, Context.deliver_of_error hsend, hc⟩
  obtain ⟨r, c', h1, h2⟩ := hexec
  have hstay : Hosts m t d c' := ⟨top, h2⟩
  unfold Context.info
  cases r with
  | error e => exact ⟨_, c', t, Context.step_bind_error h1, hstay⟩
  | ok reply =>
    rw [Context.step_bind_ok h1]
    cases htext : reply.toText? "INFO" with
    | error e => exact ⟨_, c', t, Context.step_bind_error (Context.step_lift _ _), hstay⟩
    | ok text =>
      rw [Context.step_bind_ok (Context.step_lift _ _)]
      exact ⟨_, _, c'.topology.cacheInfo i (part.getD "default") (Info.parse (text.getD "")), rfl, top,
        ⟨h2.healthy.sound, h2.healthy.node, h2.healthy.listed, h2.healthy.ports, h2.healthy.masters, h2.healthy.size,
          h2.healthy.link, h2.healthy.trusted, h2.healthy.active⟩, rfl, h2.holds, h2.maxArgs, h2.room⟩

/-! ## Grounds -/

/-- A key that a plan may look at: one that matches its pattern, or its only one. -/
def Near (p : Plan) (key : String) : Prop := Glob.matchesKey p.pattern key = true ∨ p.directKey = some key

/-- A healthy context over a store of some kind. -/
def Hosting (m : Nat) (t : Topology) (I : Data → Prop) (c : Context Simulation Link) : Prop :=
  ∃ d, Hosts m t d c ∧ I d

variable {I : Data → Prop} {Known Found : String → Prop}

/-- A healthy context over a store of some kind are grounds for the calls of a plan. -/
def grounds (I : Data → Prop) (Known Found : String → Prop) (hm : 6 ≤ m) (hp : 0 < v.settings.scanBatch)
    (hn : v.settings.scanBatch ≤ Number.max64) (hv : v.masters = t.masters)
    (hknown : ∀ d key, I d → d.contains key = true → Near p key → Known key)
    (hfound : ∀ d key y, I d → Known key → lookupIn (answers m d) p key = .ok (some y) → Found key) :
    Grounds (Context.world (σ := Simulation) (κ := Link)) v p where
  Calm := Hosting m t I
  Known := Known
  Found := Found
  candidate := by
    rintro key c hk ⟨d, hc, hd⟩
    obtain ⟨c', h1, h2⟩ := hc.candidate p key
    refine ⟨_, c', h1, ⟨d, h2, hd⟩, fun y hy => hfound d key y hd hk ?_⟩
    cases hl : lookupIn (answers m d) p key with
    | error e => rw [hl] at hy; cases hy
    | ok o => rw [hl] at hy; exact congrArg Except.ok (Except.ok.inj hy)
  page := by
    rintro node c cursor hnode ⟨d, hc, hd⟩
    obtain ⟨r, c', h1, h2, h3⟩ := hc.page hm hp hn (hv ▸ hnode) cursor p.pattern
    exact ⟨r, c', h1, ⟨d, h2, hd⟩, fun q hq k hk => hknown d k hd (h3 q hq k hk).1 (.inl (h3 q hq k hk).2)⟩
  existsKey := by
    rintro key c hdirect ⟨d, hc, hd⟩
    obtain ⟨c', h1, h2⟩ := hc.existsKey (by omega) key
    exact ⟨_, c', h1, ⟨d, h2, hd⟩, fun hr => hknown d key hd (Except.ok.inj hr) (.inr hdirect)⟩

end Simulation
end SlotSql
