import SlotSql.Proofs.Wire.Reading
/-!
# Replies however the stream is cut

A stream is read in pieces that end anywhere: inside a frame, behind one, or behind several. What has been received and not
been used and what is still to be read make up one string of octets (`Carries`). A call takes the first frame off that
string and leaves the rest, so the cuts do not matter; and it does not wait for octets that the frame does not need.

Results:
* `readFrame_whole`, `readFrame_part`: one call, if the next frame is there, and if the stream ends before it is.
* `executeAll_replies`: calls one after the other.
* `replies_in_order`: all of it, for a new connection and any lawful codec.
-/
namespace SlotSql.Cluster.Wire

namespace Connection

/-- Sends commands one after the other: the octets sent and the reply for each, and the connection and pieces left over. -/
def executeAll (c : Connection) :
    List Command → List Bytes → List (Bytes × Except ClusterError Reply) × Connection × List Bytes
  | [], pieces => ([], c, pieces)
  | cmd :: cmds, pieces =>
    let (sent, reply, c, pieces) := c.execute cmd pieces
    let (outcomes, c, pieces) := c.executeAll cmds pieces
    ((sent, reply) :: outcomes, c, pieces)

/-- The octets that were received and not used and those of the pieces still to be read, in order. No piece is the end of
the stream. -/
structure Carries (c : Connection) (pieces : List Bytes) (octets : Bytes) : Prop where
  octets : c.received ++ pieces.flatten = octets
  filled : ∀ piece ∈ pieces, piece ≠ []

variable {c : Connection} {piece bs front rest : Bytes} {pieces : List Bytes} {f : Frame}

/-- A piece that arrives changes nothing about the octets that are under way. -/
theorem Carries.feed (h : c.Carries (piece :: pieces) bs) : (c.feed piece).Carries pieces bs where
  octets := by
    rw [← h.octets, List.flatten_cons, ← List.append_assoc]
    rfl
  filled q hq := h.filled q (List.mem_cons_of_mem _ hq)

theorem frame?_whole (hc : c.codec.Lawful) (hf : f.WrittenAs bs) (h : c.received = bs ++ rest) :
    c.frame? = (.ok (some f), { c with received := rest }) := by
  unfold frame?
  rw [h, hc.whole hf]
  rfl

theorem frame?_part (hc : c.codec.Lawful) (hf : f.WrittenAs bs) (hpre : c.received <+: bs) (hne : c.received ≠ bs) :
    c.frame? = (.ok none, c) := by
  unfold frame?
  rw [hc.part hf hpre hne]
  rfl

/-- Either a whole frame has been received, or the beginning of it. -/
theorem Carries.split (h : c.Carries pieces (bs ++ rest)) :
    (∃ z, c.received = bs ++ z ∧ z ++ pieces.flatten = rest) ∨ c.received <+: bs ∧ c.received ≠ bs := by
  have hpre : c.received <+: bs ++ rest := ⟨_, h.octets⟩
  by_cases hle : bs.length ≤ c.received.length
  · obtain ⟨z, hz⟩ := List.prefix_of_prefix_length_le (List.prefix_append bs rest) hpre hle
    refine .inl ⟨z, hz.symm, ?_⟩
    have hall := h.octets
    rw [← hz, List.append_assoc] at hall
    exact List.append_cancel_left hall
  · refine .inr ⟨List.prefix_of_prefix_length_le hpre (List.prefix_append bs rest) (by omega), ?_⟩
    exact fun he => hle (Nat.le_of_eq (congrArg List.length he.symm))

theorem readFrame_some {c' : Connection} (h : c.frame? = (.ok (some f), c')) (pieces : List Bytes) :
    c.readFrame pieces = (.ok f, c', pieces) := by
  unfold readFrame
  rw [h]

theorem readFrame_end (h : c.frame? = (.ok none, c)) : c.readFrame [] = (.error (.closed c.addr), c, []) := by
  rw [readFrame, h]

theorem readFrame_more (h : c.frame? = (.ok none, c)) (hp : piece ≠ []) :
    c.readFrame (piece :: pieces) = (c.feed piece).readFrame pieces := by
  have hempty : ¬ piece.isEmpty = true := mt List.isEmpty_iff.1 hp
  rw [readFrame, h]
  exact if_neg hempty

/-- **A call takes the first frame off the stream.** -/
theorem readFrame_whole (hc : c.codec.Lawful) (hf : f.WrittenAs bs) (h : c.Carries pieces (bs ++ rest)) :
    ∃ received left, c.readFrame pieces = (.ok f, { c with received }, left) ∧
      ({ c with received } : Connection).Carries left rest := by
  induction pieces generalizing c with
  | nil =>
    obtain ⟨z, hz, hrest⟩ | ⟨hpre, hne⟩ := h.split
    · exact ⟨z, [], readFrame_some (frame?_whole hc hf hz) [], hrest, h.filled⟩
    · have hall := h.octets
      rw [List.flatten_nil, List.append_nil] at hall
      have hle := hpre.length_le
      rw [hall, List.length_append] at hle
      exact absurd (hpre.eq_of_length_le (by rw [hall, List.length_append]; omega)) hne
  | cons piece pieces ih =>
    obtain ⟨z, hz, hrest⟩ | ⟨hpre, hne⟩ := h.split
    · exact ⟨z, piece :: pieces, readFrame_some (frame?_whole hc hf hz) _, hrest, h.filled⟩
    · rw [readFrame_more (frame?_part hc hf hpre hne) (h.filled piece List.mem_cons_self)]
      exact ih (c := c.feed piece) hc h.feed

/-- **If the stream ends before a frame is complete, a call says that the connection is closed.** -/
theorem readFrame_part (hc : c.codec.Lawful) (hf : f.WrittenAs bs) (hpre : front <+: bs) (hne : front ≠ bs)
    (h : c.Carries pieces front) : (c.readFrame pieces).1 = .error (.closed c.addr) := by
  have hlt : front.length < bs.length := by
    have hle := hpre.length_le
    have hlen : front.length ≠ bs.length := fun he => hne (hpre.eq_of_length he)
    omega
  induction pieces generalizing c with
  | nil =>
    have hall := h.octets
    rw [List.flatten_nil, List.append_nil] at hall
    rw [readFrame_end (frame?_part hc hf (hall ▸ hpre) (hall ▸ hne))]
  | cons piece pieces ih =>
    have hreceived : c.received <+: front := ⟨_, h.octets⟩
    have hle := hreceived.length_le
    have hnone := frame?_part hc hf (hreceived.trans hpre) fun he => by rw [he] at hle; omega
    rw [readFrame_more hnone (h.filled piece List.mem_cons_self)]
    exact ih (c := c.feed piece) hc h.feed

end Connection

/-- A command whose count of words and of octets of each word are numbers of 64 bits. -/
structure Fits (cmd : Command) : Prop where
  words : IsInt64 cmd.words.length
  octets : ∀ w ∈ cmd.words, IsInt64 w.length

theorem Fits.written {cmd : Command} (h : Fits cmd) : ∃ bs, (Frame.ofCommand cmd).WrittenAs bs := by
  have hall (ws : List Bytes) (hw : ∀ w ∈ ws, IsInt64 w.length) : ∃ bs, Frame.AllWrittenAs (ws.map .bulk) bs := by
    induction ws with
    | nil => exact ⟨[], rfl⟩
    | cons w ws ih =>
      obtain ⟨hw, hws⟩ := List.forall_mem_cons.1 hw
      obtain ⟨back, hback⟩ := ih hws
      exact ⟨_, _, back, ⟨hw, rfl⟩, hback, rfl⟩
  obtain ⟨body, hbody⟩ := hall cmd.words h.octets
  refine ⟨_, ?_, body, hbody, rfl⟩
  rw [List.length_map]
  exact h.words

namespace Connection

variable {c : Connection} {cmd : Command} {cmds : List Command} {fs : List Frame} {bs rest : Bytes} {pieces : List Bytes}

/-- A command is written as a frame, and then a frame is received. -/
theorem execute_eq (hc : c.codec.Lawful) (hcmd : Fits cmd) (pieces : List Bytes) :
    ∃ sent, (Frame.ofCommand cmd).WrittenAs sent ∧ c.execute cmd pieces =
      (sent, (c.readFrame pieces).1.map Frame.toReply, (c.readFrame pieces).2) := by
  obtain ⟨bs, hbs⟩ := hcmd.written
  obtain ⟨sent, hsent, hwritten⟩ := hc.encode hbs
  refine ⟨sent, hwritten, ?_⟩
  unfold execute
  rw [hsent]

/-- Calls one after the other return the replies in order, and leave what follows them. -/
theorem executeAll_replies (hc : c.codec.Lawful) (hcmds : ∀ cmd ∈ cmds, Fits cmd) (hf : Frame.AllWrittenAs fs bs)
    (hlen : cmds.length = fs.length) (h : c.Carries pieces (bs ++ rest)) :
    ∃ outcomes received left, c.executeAll cmds pieces = (outcomes, { c with received }, left) ∧
      outcomes.map (·.2) = fs.map (fun f => .ok f.toReply) ∧ ({ c with received } : Connection).Carries left rest := by
  induction cmds generalizing c fs bs pieces with
  | nil =>
    cases List.length_eq_zero_iff.1 hlen.symm
    cases hf
    exact ⟨[], c.received, pieces, rfl, rfl, h⟩
  | cons cmd cmds ih =>
    obtain ⟨f, fs, rfl⟩ := List.exists_cons_of_length_eq_add_one hlen.symm
    obtain ⟨front, back, hfront, hback, rfl⟩ := hf
    obtain ⟨hcmd, hcmds⟩ := List.forall_mem_cons.1 hcmds
    rw [List.append_assoc] at h
    obtain ⟨received, left, hread, hleft⟩ := readFrame_whole hc hfront h
    obtain ⟨sent, -, hone⟩ := execute_eq hc hcmd pieces
    obtain ⟨outcomes, received', left', hall, hreplies, hend⟩ :=
      ih (c := { c with received }) hc hcmds hback (Nat.succ.inj hlen) hleft
    refine ⟨(sent, .ok f.toReply) :: outcomes, received', left', ?_, congrArg (_ :: ·) hreplies, hend⟩
    rw [executeAll, hone, hread]
    simp only [Except.map, hall]

/-- **Replies come back in order, however the stream is cut.** Let a codec be lawful, let commands be sent over a new
connection, and let the stream, in pieces of any size, hold as many replies as there are commands, and then anything. Then
each call returns its reply, and what followed the replies is left. If that is only a part of a frame, the next call says
that the connection is closed. Whatever state a connection is in, the octets that it sends for a command are read as an
array of bulk strings, the words of the command. -/
theorem replies_in_order {codec : Codec} (hcodec : codec.Lawful) (addr : String) {cmds : List Command}
    (hcmds : ∀ cmd ∈ cmds, Fits cmd) {frames : List Frame} {octets rest : Bytes} (hframes : Frame.AllWrittenAs frames octets)
    (hlen : cmds.length = frames.length) {pieces : List Bytes} (hpieces : ∀ piece ∈ pieces, piece ≠ [])
    (hcut : pieces.flatten = octets ++ rest) :
    (∃ outcomes c left, ({ codec, addr } : Connection).executeAll cmds pieces = (outcomes, c, left) ∧
      outcomes.map (·.2) = frames.map (fun f => .ok f.toReply) ∧ c.received ++ left.flatten = rest ∧
      ∀ cmd f bs, Fits cmd → Frame.WrittenAs f bs → rest <+: bs → rest ≠ bs →
        (c.execute cmd left).2.1 = .error (.closed addr)) ∧
    ∀ (c : Connection) cmd pieces, c.codec = codec → Fits cmd → (Frame.ofCommand cmd).WrittenAs (c.execute cmd pieces).1 ∧
      ∀ more, codec.decode ((c.execute cmd pieces).1 ++ more) = (.ok (some (.array (cmd.words.map .bulk))), more) := by
  constructor
  · obtain ⟨outcomes, received, left, hall, hreplies, hend⟩ :=
      executeAll_replies (c := { codec, addr }) hcodec hcmds hframes hlen ⟨hcut, hpieces⟩
    refine ⟨outcomes, _, left, hall, hreplies, hend.octets, fun cmd f bs hcmd hf hpre hne => ?_⟩
    obtain ⟨sent, -, hone⟩ := execute_eq (c := { codec, addr, received }) hcodec hcmd left
    rw [hone, readFrame_part (c := { codec, addr, received }) hcodec hf hpre hne hend]
    rfl
  · rintro c cmd pieces rfl hcmd
    obtain ⟨sent, hsent, hone⟩ := execute_eq hcodec hcmd pieces
    rw [hone]
    exact ⟨hsent, hcodec.whole hsent⟩

end Connection

/-! ## A nested reply -/

/-- Two replies, one of which nests. -/
def nestedFrames : List Frame :=
  [.array [.bulk (Utf8.bytes "a\r\nb"), .null, .array [.integer (-3), .bulk []]], .simple (Utf8.bytes "PONG")]

/-- The replies, and the beginning of a third one. -/
def nestedOctets : Bytes := Frame.octetsOfAll nestedFrames ++ ascii "$5\r\nab"

/-- The first read ends inside the end of a line; the second one gets everything else. -/
def nestedReads : List Bytes := [nestedOctets.take 7, nestedOctets.drop 7]

instance (bs : Bytes) : Decidable (IsLine bs) := inferInstanceAs (Decidable (∀ b ∈ bs, b ≠ 0x0D ∧ b ≠ 0x0A))

instance (n : Int) : Decidable (IsInt64 n) := inferInstanceAs (Decidable (_ ∧ _))

instance (cmd : Command) : Decidable (Fits cmd) :=
  decidable_of_iff (IsInt64 cmd.words.length ∧ ∀ w ∈ cmd.words, IsInt64 w.length)
    ⟨fun h => ⟨h.1, h.2⟩, fun h => ⟨h.words, h.octets⟩⟩

theorem nestedFrames_written : Frame.AllWrittenAs nestedFrames (Frame.octetsOfAll nestedFrames) := by
  have hinner : Frame.AllWrittenAs [.integer (-3), .bulk []] (Frame.octetsOfAll [.integer (-3), .bulk []]) :=
    ⟨_, _, ⟨by decide, rfl⟩, ⟨_, _, ⟨by decide, rfl⟩, rfl, rfl⟩, rfl⟩
  have harray : Frame.WrittenAs (.array [.integer (-3), .bulk []]) (Frame.octets (.array [.integer (-3), .bulk []])) :=
    ⟨by decide, _, hinner, rfl⟩
  have houter : Frame.AllWrittenAs [.bulk (Utf8.bytes "a\r\nb"), .null, .array [.integer (-3), .bulk []]]
      (Frame.octetsOfAll [.bulk (Utf8.bytes "a\r\nb"), .null, .array [.integer (-3), .bulk []]]) :=
    ⟨_, _, ⟨by decide +kernel, rfl⟩, ⟨_, _, .inl rfl, ⟨_, _, harray, rfl, rfl⟩, rfl⟩, rfl⟩
  exact ⟨_, _, ⟨by decide, _, houter, rfl⟩, ⟨_, _, ⟨by decide +kernel, rfl⟩, rfl, rfl⟩, rfl⟩

theorem replies_in_order_two : ∃ outcomes c left,
    ({ codec := resp2, addr := "h:1" } : Connection).executeAll [.hgetall "k", .ping] nestedReads = (outcomes, c, left) ∧
      outcomes.map (·.2) = [.ok (.array [.bulk (Utf8.bytes "a\r\nb"), .nil, .array [.integer (-3), .bulk []]]),
        .ok (.status "PONG")] ∧
      (c.execute .ping left).2.1 = .error (.closed "h:1") := by
  have hfits : ∀ cmd ∈ [Command.hgetall "k", .ping], Fits cmd := by decide +kernel
  have hfilled : ∀ piece ∈ nestedReads, piece ≠ [] := by decide +kernel
  have hcut : nestedReads.flatten = Frame.octetsOfAll nestedFrames ++ ascii "$5\r\nab" := by decide +kernel
  have hbulk : Frame.WrittenAs (.bulk (Utf8.bytes "abcde")) (Frame.octets (.bulk (Utf8.bytes "abcde"))) :=
    ⟨by decide +kernel, rfl⟩
  obtain ⟨⟨outcomes, c, left, hall, hreplies, -, hclosed⟩, -⟩ :=
    Connection.replies_in_order resp2_lawful "h:1" hfits nestedFrames_written rfl hfilled hcut
  refine ⟨outcomes, c, left, hall, ?_, hclosed .ping _ _ (hfits _ (by simp)) hbulk (by decide +kernel) (by decide +kernel)⟩
  rw [hreplies]
  simp only [nestedFrames, List.map_cons, List.map_nil, Frame.toReply, Frame.toReplies, Utf8.decodeLossy_bytes]

end SlotSql.Cluster.Wire
