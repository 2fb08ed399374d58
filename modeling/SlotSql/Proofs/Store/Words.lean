import SlotSql.Cluster.Command
import SlotSql.Proofs.Store.Command
import SlotSql.Proofs.Text.Utf8
/-!
# Commands on keys as words

A command on keys is sent as words of octets and read again by the node that gets it.

Results:
* `Command.About`, `Command.Runs`: a command is about keys, and its words are read as a command on them.
* `runs_hmget`, `runs_smembers` and the like: the commands of the engine are read as they are meant.
* `Store.reply`: what a store of its own answers to a command.
-/
namespace SlotSql

open Cluster Store

/-- What a reply is to the sender: an error reply is a failure. -/
def Cluster.Reply.answer : Reply → Except ClusterError Reply
  | .error m => .error (.reply m)
  | r => .ok r

namespace Cluster.Command

variable {key : String}

theorem name_ofTexts (n : String) (ws : List String) : (ofTexts (n :: ws)).name = Text.asciiUpper n := by
  unfold name ofTexts
  rw [List.map_cons, List.headD_cons, Utf8.decodeLossy_bytes]

/-- The words of a command are those that it was made of. -/
theorem ofTexts_inj {ws ws' : List String} (h : ofTexts ws = ofTexts ws') : ws = ws' := by
  have hback (ws : List String) : (ws.map Utf8.bytes).map Utf8.decodeLossy = ws := by
    rw [List.map_map]
    exact (List.map_congr_left fun w _ => Utf8.decodeLossy_bytes w).trans (List.map_id _)
  rw [← hback ws, ← hback ws']
  exact congrArg (fun c : Command => c.words.map Utf8.decodeLossy) h

/-- The arguments of a command, each as a text and as octets. -/
def args (c : Command) : List (String × Bytes) := (c.words.drop 1).map fun w => (Utf8.decodeLossy w, w)

theorem args_ofTexts (n : String) (ws : List String) :
    (ofTexts (n :: ws)).args = ws.map fun t => (t, Utf8.bytes t) := by
  unfold args ofTexts
  rw [List.map_cons, List.drop_one, List.tail_cons, List.map_map]
  refine List.map_congr_left fun t _ => ?_
  simp only [Function.comp, Utf8.decodeLossy_bytes]

/-- A command is about these keys, whether or not its words are right for it. -/
structure About (c : Command) (ks : List String) : Prop where
  name : c.name ∈ KeyCommand.manyKeyNames ++ KeyCommand.oneKeyNames
  args : c.args ≠ []
  keys : KeyCommand.keysOf c.name (c.args.map Prod.fst) = ks

/-- The words of a command are read as this command on keys. -/
structure Runs (c : Command) (k : KeyCommand) : Prop extends c.About k.keys where
  read : KeyCommand.read c.name c.args = .ok k

theorem texts_ofTexts (n : String) (ws : List String) : (ofTexts (n :: ws)).args.map Prod.fst = ws := by
  rw [args_ofTexts, List.map_map]
  show ws.map id = ws
  rw [List.map_id]

/-- A command of texts is read as its name and arguments say. -/
theorem runs_ofTexts {n : String} {ws : List String} {k : KeyCommand} (hu : Text.asciiUpper n = n)
    (hn : n ∈ KeyCommand.manyKeyNames ++ KeyCommand.oneKeyNames) (hw : ws ≠ [])
    (hk : KeyCommand.keysOf n ws = k.keys)
    (hr : ∀ as, as.map Prod.fst = ws → KeyCommand.read n as = .ok k) : (ofTexts (n :: ws)).Runs k where
  name := by rw [name_ofTexts, hu]; exact hn
  args := by
    rw [args_ofTexts]
    simpa using hw
  keys := by rw [name_ofTexts, hu, texts_ofTexts]; exact hk
  read := by rw [name_ofTexts, hu]; exact hr _ (texts_ofTexts n ws)

theorem runs_existsKey : (existsKey key).Runs (.countKeys [key]) :=
  runs_ofTexts (by decide) (by decide) (by simp) rfl fun as h => by
    unfold KeyCommand.read; rw [h]; rfl

theorem runs_smembers : (smembers key).Runs (.smembers key) :=
  runs_ofTexts (by decide) (by decide) (by simp) rfl fun as h => by
    unfold KeyCommand.read; rw [h]; rfl

theorem runs_del {ks : List String} (hks : ks ≠ []) : (del ks).Runs (.del ks) := by
  obtain ⟨k, ks, rfl⟩ := List.exists_cons_of_ne_nil hks
  exact runs_ofTexts (by decide) (by decide) (by simp) rfl fun as h => by
    unfold KeyCommand.read; rw [h]; rfl

theorem runs_hmget {fields : List String} (hf : fields ≠ []) :
    (hmget key fields).Runs (.hmget key fields) := by
  obtain ⟨f, fs, rfl⟩ := List.exists_cons_of_ne_nil hf
  exact runs_ofTexts (by decide) (by decide) (by simp) rfl fun as h => by
    unfold KeyCommand.read; rw [h]; rfl

theorem runs_sadd {members : List String} (hm : members ≠ []) :
    (sadd key members).Runs (.sadd key members) := by
  obtain ⟨m, ms, rfl⟩ := List.exists_cons_of_ne_nil hm
  exact runs_ofTexts (by decide) (by decide) (by simp) rfl fun as h => by
    unfold KeyCommand.read; rw [h]; rfl

theorem runs_srem {members : List String} (hm : members ≠ []) :
    (srem key members).Runs (.srem key members) := by
  obtain ⟨m, ms, rfl⟩ := List.exists_cons_of_ne_nil hm
  exact runs_ofTexts (by decide) (by decide) (by simp) rfl fun as h => by
    unfold KeyCommand.read; rw [h]; rfl

/-- Fields and values that take turns are paired again. -/
theorem pairs?_flatMap (ps : List (String × Bytes)) :
    KeyCommand.pairs? ((ps.flatMap fun (f, v) => [Utf8.bytes f, v]).map fun w => (Utf8.decodeLossy w, w)) =
      some ps := by
  induction ps with
  | nil => rfl
  | cons p ps ih =>
    simp only [List.flatMap_cons, List.cons_append, List.nil_append, List.map_cons, KeyCommand.pairs?,
      Utf8.decodeLossy_bytes]
    rw [ih]
    rfl

theorem read_hmset (k p : String × Bytes) (ps : List (String × Bytes)) :
    KeyCommand.read "HMSET" (k :: p :: ps) = match KeyCommand.pairs? (p :: ps) with
      | some ps => .ok (.hset false k.1 ps)
      | none => .error (wrongArity "HMSET") := rfl

theorem runs_hmset {pairs : List (String × Bytes)} (h : pairs ≠ []) :
    (hmset key pairs).Runs (.hset false key pairs) := by
  have hn : (hmset key pairs).name = "HMSET" := by
    unfold name hmset
    rw [List.cons_append, List.headD_cons, Utf8.decodeLossy_bytes]
    decide
  have hargs : (hmset key pairs).args = (key, Utf8.bytes key) ::
      (pairs.flatMap fun (f, v) => [Utf8.bytes f, v]).map fun w => (Utf8.decodeLossy w, w) := by
    unfold args hmset
    rw [List.cons_append, List.drop_one, List.tail_cons, List.cons_append, List.map_cons,
      Utf8.decodeLossy_bytes, List.nil_append]
  refine ⟨⟨hn ▸ by decide, by rw [hargs]; simp, ?_⟩, ?_⟩
  · rw [hn, hargs]; rfl
  · obtain ⟨p, ps, rfl⟩ := List.exists_cons_of_ne_nil h
    have hpairs := pairs?_flatMap (p :: ps)
    rw [hn, hargs]
    simp only [List.flatMap_cons, List.cons_append, List.map_cons] at hpairs ⊢
    rw [read_hmset, hpairs]

end Cluster.Command

namespace Store

/-- What a store answers to a command of no more than `m` words, and the store afterwards. -/
def reply (m : Nat) (c : Command) (d : Data) : Except ClusterError Reply × Data :=
  match c.validate m with
  | .error e => (.error e, d)
  | .ok () =>
    match KeyCommand.read c.name c.args with
    | .error r => (r.answer, d)
    | .ok k => ((k.run d).1.answer, (k.run d).2)

variable {m : Nat} {c : Command} {k : KeyCommand} {d : Data}

theorem validate_about {ks : List String} (hr : c.About ks) :
    c.validate m = if m < c.length then .error (.tooManyArgs c.name c.length m) else .ok () := by
  unfold Command.validate
  rw [if_neg]
  intro h
  refine hr.args ?_
  unfold Command.args
  rw [List.isEmpty_iff.1 h]
  rfl

theorem reply_runs (hr : c.Runs k) (hl : c.length ≤ m) :
    reply m c d = ((k.run d).1.answer, (k.run d).2) := by
  unfold reply
  rw [validate_about hr.toAbout, if_neg (Nat.not_lt.2 hl)]
  simp only [hr.read]

theorem reply_long (hr : c.Runs k) (hl : m < c.length) :
    reply m c d = (.error (.tooManyArgs c.name c.length m), d) := by
  unfold reply
  rw [validate_about hr.toAbout, if_pos hl]

end Store
end SlotSql
