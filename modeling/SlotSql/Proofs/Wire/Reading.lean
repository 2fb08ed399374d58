import SlotSql.Cluster.Wire
import SlotSql.Proofs.Text.Integer
import SlotSql.Proofs.Text.Utf8
/-!
# Reading frames off the wire

A reader of octets may be asked too early, when what it reads has not arrived whole, or late, when more has arrived behind
it. `Reads` says that both do not matter: the reader asks for more as long as something is missing, and then takes just what
belongs to it. Readers that follow each other keep this, so it holds of nested frames because it does of their lines.

Results:
* `Reads.andThen`, `Reads.many`: what readers one after the other read.
* `frame_reads`: a frame is read from any octets that a peer may write it as.
* `resp2_lawful`: the codec of the protocol does all that is asked of a codec.
-/
namespace SlotSql.Cluster.Wire

/-! ## Frames as octets -/

/-- Octets that can stand in a line. -/
def IsLine (bs : Bytes) : Prop := ∀ b ∈ bs, b ≠ 0x0D ∧ b ≠ 0x0A

/-- A number that is no greater than the greatest of 64 bits with a sign, and no less than the least. -/
def IsInt64 (n : Int) : Prop := (Number.signedRange 64).1 ≤ n ∧ n ≤ (Number.signedRange 64).2

namespace Frame

mutual

/-- Whether a peer may write a frame as these octets. There are two ways to write that there is nothing. -/
def WrittenAs : Frame → Bytes → Prop
  | simple l, bs => IsLine l ∧ bs = octets (simple l)
  | error s, bs => IsLine (Utf8.bytes s) ∧ bs = octets (error s)
  | integer n, bs => IsInt64 n ∧ bs = octets (integer n)
  | bulk b, bs => IsInt64 b.length ∧ bs = octets (bulk b)
  | array items, bs => IsInt64 items.length ∧
      ∃ body, AllWrittenAs items body ∧ bs = ascii "*" ++ ascii (toString items.length) ++ crlf ++ body
  | null, bs => bs = octets null ∨ bs = ascii "*-1" ++ crlf

/-- Whether a peer may write frames, one after the other, as these octets. -/
def AllWrittenAs : List Frame → Bytes → Prop
  | [], bs => bs = []
  | f :: fs, bs => ∃ front back, WrittenAs f front ∧ AllWrittenAs fs back ∧ bs = front ++ back

end

theorem octets_ne_nil (f : Frame) : f.octets ≠ [] := by
  cases f <;> simp [octets, crlf]

theorem WrittenAs.ne_nil {f : Frame} {bs : Bytes} (h : f.WrittenAs bs) : bs ≠ [] := by
  cases f with
  | array items =>
    obtain ⟨-, body, -, rfl⟩ := h
    simp [crlf]
  | null =>
    rcases h with rfl | rfl
    · exact octets_ne_nil .null
    · simp [crlf]
  | _ =>
    rw [h.2]
    exact octets_ne_nil _

mutual

theorem writtenAs_octets : ∀ {f : Frame} {bs : Bytes}, f.WrittenAs bs → f.WrittenAs f.octets
  | simple _, _, h => ⟨h.1, rfl⟩
  | error _, _, h => ⟨h.1, rfl⟩
  | integer _, _, h => ⟨h.1, rfl⟩
  | bulk _, _, h => ⟨h.1, rfl⟩
  | array _, _, ⟨hn, _, hbody, _⟩ => ⟨hn, _, allWrittenAs_octets hbody, rfl⟩
  | null, _, _ => .inl rfl

theorem allWrittenAs_octets : ∀ {fs : List Frame} {bs : Bytes}, AllWrittenAs fs bs → AllWrittenAs fs (octetsOfAll fs)
  | [], _, _ => rfl
  | _ :: _, _, ⟨_, _, hfront, hback, _⟩ => ⟨_, _, writtenAs_octets hfront, allWrittenAs_octets hback, rfl⟩

end

end Frame

/-- What is asked of a codec. -/
structure Codec.Lawful (codec : Codec) : Prop where
  /-- A frame that can be written is written. -/
  encode : ∀ {f : Frame} {bs}, f.WrittenAs bs → ∃ sent, codec.encode f = .ok sent ∧ f.WrittenAs sent
  /-- A whole frame is taken off the octets, and nothing else. -/
  whole : ∀ {f : Frame} {bs}, f.WrittenAs bs → ∀ rest, codec.decode (bs ++ rest) = (.ok (some f), rest)
  /-- A part of a frame is left where it is. -/
  part : ∀ {f : Frame} {bs front}, f.WrittenAs bs → front <+: bs → front ≠ bs → codec.decode front = (.ok none, front)

/-! ## Readers -/

variable {α β : Type} {d : Nat} {x y : Bytes} {a : α} {b : β}

/-- A reader takes just the octets `x`, which hold `a`, however much of them and of what follows is there. It does so as
long as there are not more than `d` octets to look at. -/
structure Reads (d : Nat) (p : Bytes → Parse α) (x : Bytes) (a : α) : Prop where
  whole : x.length ≤ d → ∀ rest, p (x ++ rest) = .whole a rest
  part : ∀ front, front <+: x → front ≠ x → front.length < d → p front = .more

namespace Reads

/-- Two readers, one after the other. -/
theorem andThen {p : Bytes → Parse α} {f : α → Bytes → Parse β} (hp : Reads d p x a) (hf : Reads d (f a) y b) :
    Reads d (fun bs => (p bs).andThen f) (x ++ y) b where
  whole hd rest := by
    rw [List.length_append] at hd
    show (p (x ++ y ++ rest)).andThen f = _
    rw [List.append_assoc, hp.whole (by omega)]
    exact hf.whole (by omega) rest
  part front hpre hne hd := by
    show (p front).andThen f = _
    by_cases hle : x.length ≤ front.length
    · obtain ⟨z, rfl⟩ := List.prefix_of_prefix_length_le (List.prefix_append x y) hpre hle
      rw [List.length_append] at hd
      rw [hp.whole (by omega)]
      exact hf.part z ((List.prefix_append_right_inj x).1 hpre) (fun h => hne (by rw [h])) (by omega)
    · have hshort := List.prefix_of_prefix_length_le hpre (List.prefix_append x y) (by omega)
      rw [hp.part front hshort (fun h => hle (Nat.le_of_eq (congrArg List.length h.symm))) hd]
      rfl

/-- What is made of the result. -/
theorem map {p : Bytes → Parse α} {f : α → Bytes → Parse β} (hp : Reads d p x a) (hf : ∀ rest, f a rest = .whole b rest) :
    Reads d (fun bs => (p bs).andThen f) x b := by
  have hdone : Reads d (f a) [] b := ⟨fun _ => hf, fun _ hpre hne => absurd (List.prefix_nil.1 hpre) hne⟩
  have h := hp.andThen hdone
  rwa [List.append_nil] at h

/-- One octet in front that says how to go on. -/
theorem front {p g : Bytes → Parse α} {o : UInt8} (hg : Reads d g x a) (hnil : p [] = .more)
    (hcons : ∀ bs, p (o :: bs) = g bs) : Reads (d + 1) p (o :: x) a where
  whole hd rest := by
    rw [List.cons_append, hcons]
    exact hg.whole (Nat.le_of_succ_le_succ hd) rest
  part front hpre hne hd := by
    cases front with
    | nil => exact hnil
    | cons c front =>
      obtain ⟨rfl, htail⟩ := List.cons_prefix_cons.1 hpre
      rw [hcons]
      exact hg.part front htail (fun h => hne (by rw [h])) (Nat.lt_of_succ_lt_succ hd)

/-- A reader that may look at no octets at all has nothing to read. -/
theorem none (p : Bytes → Parse α) (a : α) (hx : x ≠ []) : Reads 0 p x a where
  whole hd := absurd (List.length_eq_zero_iff.1 (Nat.le_zero.1 hd)) hx
  part _ _ _ hd := absurd hd (Nat.not_lt_zero _)

end Reads

/-! ## Lines, numbers and blocks -/

theorem line_cons {o : UInt8} (ho : o ≠ 0x0D) (bs : Bytes) :
    line (o :: bs) = (line bs).andThen fun l rest => .whole (o :: l) rest := by
  rw [line]
  intro _ h
  exact absurd h ho

theorem line_reads {l : Bytes} (hl : IsLine l) : ∀ d, Reads d line (l ++ crlf) l := by
  induction l with
  | nil =>
    intro d
    refine ⟨fun _ rest => rfl, fun front hpre hne _ => ?_⟩
    rcases front with _ | ⟨o, front⟩
    · rfl
    · obtain ⟨rfl, hone⟩ := List.cons_prefix_cons.1 hpre
      rcases front with _ | ⟨o, front⟩
      · rfl
      · obtain ⟨rfl, htwo⟩ := List.cons_prefix_cons.1 hone
        cases List.prefix_nil.1 htwo
        exact absurd rfl hne
  | cons o l ih =>
    intro d
    obtain ⟨ho, hl⟩ := List.forall_mem_cons.1 hl
    cases d with
    | zero => exact .none _ _ (List.cons_ne_nil _ _)
    | succ d =>
      have htail : Reads d (fun bs => (line bs).andThen fun l rest => .whole (o :: l) rest) (l ++ crlf) (o :: l) :=
        (ih hl d).map fun _ => rfl
      exact htail.front rfl (line_cons ho.1)

/-- What is no line holds a character that ends one. -/
theorem isLine_bytes {s : String} (h : ∀ c ∈ s.toList, c ≠ '\r' ∧ c ≠ '\n') : IsLine (Utf8.bytes s) := by
  intro b hb
  constructor
  · rintro rfl
    exact (h _ ((Utf8.mem_encode_iff (c := '\r') (by decide)).1 hb)).1 rfl
  · rintro rfl
    exact (h _ ((Utf8.mem_encode_iff (c := '\n') (by decide)).1 hb)).2 rfl

theorem isLine_toString (n : Int) : IsLine (ascii (toString n)) := by
  have hdigits (k : Nat) : ∀ c ∈ (toString k).toList, c ≠ '\r' ∧ c ≠ '\n' := by
    intro c hc
    have hs : (toString k).toList = Nat.toDigits 10 k := Nat.toList_repr
    rw [hs] at hc
    have hdigit := Nat.isDigit_of_mem_toDigits (by omega) (by omega) hc
    constructor
    · rintro rfl
      exact absurd hdigit (by decide)
    · rintro rfl
      exact absurd hdigit (by decide)
  refine isLine_bytes fun c hc => ?_
  cases n with
  | ofNat k => exact hdigits k c hc
  | negSucc k =>
    have hs : (toString (Int.negSucc k)).toList = '-' :: (toString (k + 1)).toList := by
      show ("-" ++ Nat.repr (k + 1)).toList = _
      rw [String.toList_append]
      rfl
    rw [hs] at hc
    rcases List.mem_cons.1 hc with rfl | hc
    · decide
    · exact hdigits _ c hc

theorem number_reads {n : Int} (hn : IsInt64 n) (d : Nat) : Reads d number (ascii (toString n) ++ crlf) n := by
  have hread : (Utf8.decode? (ascii (toString n))).bind Number.int64? = some n := by
    rw [ascii, Utf8.decode?_bytes]
    exact Number.int64?_toString hn.1 hn.2
  refine (line_reads (isLine_toString n) d).map fun rest => ?_
  rw [hread]

theorem block_reads (b : Bytes) (d : Nat) : Reads d (block b.length) (b ++ crlf) b where
  whole _ rest := by
    have hlen : (b ++ crlf ++ rest).length = b.length + 2 + rest.length := by
      rw [List.length_append, List.length_append]
      rfl
    have hend : ((b ++ crlf ++ rest).drop b.length).take 2 = crlf := by
      rw [List.append_assoc, List.drop_left]
      rfl
    have hbehind : (b ++ crlf ++ rest).drop (b.length + 2) = rest := by
      rw [← List.drop_drop, List.append_assoc, List.drop_left]
      rfl
    unfold block
    rw [if_neg (by omega), if_pos hend, hbehind, List.append_assoc, List.take_left]
  part front hpre hne _ := by
    have hlt : front.length < (b ++ crlf).length := by
      have hle := hpre.length_le
      have hlen : front.length ≠ (b ++ crlf).length := fun h => hne (hpre.eq_of_length h)
      omega
    rw [List.length_append] at hlt
    exact if_pos hlt

/-! ## Frames -/

theorem ascii_kinds :
    ascii "+" = [0x2B] ∧ ascii "-" = [0x2D] ∧ ascii ":" = [0x3A] ∧ ascii "$" = [0x24] ∧ ascii "*" = [0x2A] := by
  decide +kernel

theorem simple_reads {l : Bytes} (hl : IsLine l) (d : Nat) :
    Reads (d + 1) (frameWithin (d + 1)) (Frame.octets (.simple l)) (.simple l) := by
  have h := (line_reads hl d).map (f := fun l rest => .whole (Frame.simple l) rest) fun _ => rfl
  rw [Frame.octets, List.append_assoc, ascii_kinds.1]
  exact h.front rfl fun _ => rfl

theorem error_reads {s : String} (hs : IsLine (Utf8.bytes s)) (d : Nat) :
    Reads (d + 1) (frameWithin (d + 1)) (Frame.octets (.error s)) (.error s) := by
  rw [Frame.octets, List.append_assoc, ascii_kinds.2.1]
  refine Reads.front ((line_reads hs d).map fun _ => ?_) rfl fun _ => rfl
  rw [Utf8.decode?_bytes]

theorem integer_reads {n : Int} (hn : IsInt64 n) (d : Nat) :
    Reads (d + 1) (frameWithin (d + 1)) (Frame.octets (.integer n)) (.integer n) := by
  have h := (number_reads hn d).map (f := fun n rest => .whole (Frame.integer n) rest) fun _ => rfl
  rw [Frame.octets, List.append_assoc, ascii_kinds.2.2.1]
  exact h.front rfl fun _ => rfl

/-- What follows a count is read if the count is not negative. -/
theorem counted_reads {p : Nat → Bytes → Parse α} {f : α → Frame} {n : Nat} (hn : IsInt64 n) (hp : Reads d (p n) x a) :
    Reads d (fun bs => (number bs).andThen fun k rest =>
      if k = -1 then .whole .null rest
      else if k < 0 then .invalid "invalid length"
      else (p k.toNat rest).andThen fun a rest => .whole (f a) rest) (ascii (toString n) ++ crlf ++ x) (f a) := by
  refine (number_reads hn d).andThen ?_
  have hcount : ¬ (n : Int) = -1 ∧ ¬ (n : Int) < 0 := by omega
  simp only [if_neg hcount.1, if_neg hcount.2, Int.toNat_natCast]
  exact hp.map fun _ => rfl

theorem bulk_reads {b : Bytes} (hb : IsInt64 b.length) (d : Nat) :
    Reads (d + 1) (frameWithin (d + 1)) (Frame.octets (.bulk b)) (.bulk b) := by
  have h := counted_reads (f := Frame.bulk) hb (block_reads b d)
  rw [Frame.octets, ascii_kinds.2.2.2.1]
  simp only [List.append_assoc] at h ⊢
  exact h.front rfl fun _ => rfl

theorem array_reads {items : List Frame} (hn : IsInt64 items.length)
    (h : Reads d (many (frameWithin d) items.length) x items) :
    Reads (d + 1) (frameWithin (d + 1)) (ascii "*" ++ ascii (toString items.length) ++ crlf ++ x) (.array items) := by
  have h := counted_reads (f := Frame.array) hn h
  rw [ascii_kinds.2.2.2.2]
  simp only [List.append_assoc] at h ⊢
  exact h.front rfl fun _ => rfl

/-- Both ways to write that there is nothing are read. -/
theorem null_reads {bs : Bytes} (h : Frame.null.WrittenAs bs) (d : Nat) : Reads (d + 1) (frameWithin (d + 1)) bs .null := by
  have hminus : IsInt64 (-1) := ⟨by decide, by decide⟩
  have hnull (p : Int → Bytes → Parse Frame) := (number_reads hminus d).map (b := Frame.null)
    (f := fun n rest => if n = -1 then .whole .null rest else p n rest) fun _ => rfl
  have hoctets : ascii "$-1" = 0x24 :: ascii (toString (-1)) ∧ ascii "*-1" = 0x2A :: ascii (toString (-1)) := by
    decide +kernel
  rcases h with rfl | rfl
  · rw [Frame.octets, hoctets.1]
    exact (hnull _).front rfl fun _ => rfl
  · rw [hoctets.2]
    exact (hnull _).front rfl fun _ => rfl

mutual

/-- **A frame is read from any octets that a peer may write it as**, whatever follows them; before they are all there, the
reader asks for more. -/
theorem frame_reads : ∀ {f : Frame} {bs : Bytes}, f.WrittenAs bs → ∀ d, Reads (d + 1) (frameWithin (d + 1)) bs f
  | .simple _, _, ⟨hl, rfl⟩, d => simple_reads hl d
  | .error _, _, ⟨hs, rfl⟩, d => error_reads hs d
  | .integer _, _, ⟨hn, rfl⟩, d => integer_reads hn d
  | .bulk _, _, ⟨hb, rfl⟩, d => bulk_reads hb d
  | .array _, _, ⟨hn, _, hbody, rfl⟩, d => array_reads hn (frames_read hbody d)
  | .null, _, h, d => null_reads h d

theorem frames_read : ∀ {fs : List Frame} {bs : Bytes}, Frame.AllWrittenAs fs bs → ∀ d,
    Reads d (many (frameWithin d) fs.length) bs fs
  | [], _, rfl, _ => ⟨fun _ _ => rfl, fun _ hpre hne => absurd (List.prefix_nil.1 hpre) hne⟩
  | _ :: _, _, ⟨_, _, hfront, _, rfl⟩, 0 => .none _ _ fun h => hfront.ne_nil (List.append_eq_nil_iff.1 h).1
  | _ :: _, _, ⟨_, _, hfront, hback, rfl⟩, d + 1 =>
    (frame_reads hfront d).andThen ((frames_read hback (d + 1)).map fun _ => rfl)

end

/-- **The codec of the protocol does all that is asked of a codec.** -/
theorem resp2_lawful : resp2.Lawful where
  encode h := ⟨_, rfl, Frame.writtenAs_octets h⟩
  whole {f bs} h rest := by
    have hread := (frame_reads h (bs ++ rest).length).whole (by rw [List.length_append]; omega) rest
    simp only [resp2, frame, hread]
  part {f bs front} h hpre hne := by
    have hread := (frame_reads h front.length).part front hpre hne (Nat.lt_succ_self _)
    simp only [resp2, frame, hread]

end SlotSql.Cluster.Wire
