import SlotSql.Cluster.Command
import SlotSql.Cluster.Reply
/-!
# The wire

Commands and replies are frames on the wire: a kind octet, then a line, or a length line and that many octets, or
a count line and that many frames. Lines end with carriage return and line feed. The stream may be
cut anywhere, so a reader either has a whole frame, needs more, or finds that the octets are no
frame. A connection keeps the octets behind a frame for the next one.
-/
namespace SlotSql.Cluster.Wire

/-- The octets of an ASCII text. -/
def ascii (s : String) : Bytes := Utf8.bytes s

/-- The end of a line. -/
def crlf : Bytes := [0x0D, 0x0A]

/-- What is sent and received as one piece. -/
inductive Frame where
  /-- A line of octets. -/
  | simple (line : Bytes)
  /-- A line of text that says what went wrong. -/
  | error (message : String)
  | integer (n : Int)
  | bulk (b : Bytes)
  | array (items : List Frame)
  | null
  deriving Repr, Inhabited

namespace Frame

mutual

/-- The reply that a frame is. -/
def toReply : Frame → Reply
  | simple l => .status (Utf8.decodeLossy l)
  | error s => .error s
  | integer n => .integer n
  | bulk b => .bulk b
  | array items => .array (toReplies items)
  | null => .nil

/-- The replies that frames are. -/
def toReplies : List Frame → List Reply
  | [] => []
  | f :: fs => toReply f :: toReplies fs

end

/-- A command as a frame: an array of bulk strings. -/
def ofCommand (c : Command) : Frame := .array (c.words.map .bulk)

mutual

/-- A frame as octets. -/
def octets : Frame → Bytes
  | simple l => ascii "+" ++ l ++ crlf
  | error s => ascii "-" ++ Utf8.bytes s ++ crlf
  | integer n => ascii ":" ++ ascii (toString n) ++ crlf
  | bulk b => ascii "$" ++ ascii (toString b.length) ++ crlf ++ b ++ crlf
  | array items => ascii "*" ++ ascii (toString items.length) ++ crlf ++ octetsOfAll items
  | null => ascii "$-1" ++ crlf

/-- Frames as octets, one after the other. -/
def octetsOfAll : List Frame → Bytes
  | [] => []
  | f :: fs => octets f ++ octetsOfAll fs

end

end Frame

/-- How frames are written and read. -/
structure Codec where
  /-- The octets of a frame, or why it cannot be written. -/
  encode : Frame → Except String Bytes
  /-- The frame at the front of the octets at hand, none if more octets are needed, or why there is none; and the octets
  that are left. -/
  decode : Bytes → Except String (Option Frame) × Bytes

/-- What the octets at hand hold. -/
inductive Parse (α : Type) where
  /-- Something whole, and the octets behind it. -/
  | whole (a : α) (rest : Bytes)
  /-- The beginning of something. -/
  | more
  | invalid (reason : String)

namespace Parse

variable {α β : Type}

/-- Goes on behind something whole. -/
def andThen : Parse α → (α → Bytes → Parse β) → Parse β
  | whole a rest, f => f a rest
  | more, _ => more
  | invalid m, _ => invalid m

end Parse

/-- A line, without its end. -/
def line : Bytes → Parse Bytes
  | [] => .more
  | 0x0D :: 0x0A :: rest => .whole [] rest
  | b :: rest => (line rest).andThen fun l rest => .whole (b :: l) rest

/-- A line that writes an integer. -/
def number (bs : Bytes) : Parse Int :=
  (line bs).andThen fun l rest =>
    match (Utf8.decode? l).bind Number.int64? with
    | some n => .whole n rest
    | none => .invalid "invalid integer"

/-- `n` octets and the end of a line. -/
def block (n : Nat) (bs : Bytes) : Parse Bytes :=
  if bs.length < n + 2 then .more
  else if (bs.drop n).take 2 = crlf then .whole (bs.take n) (bs.drop (n + 2))
  else .invalid "missing end of line"

/-- `n` things, one after the other. -/
def many {α : Type} (p : Bytes → Parse α) : Nat → Bytes → Parse (List α)
  | 0, bs => .whole [] bs
  | n + 1, bs =>
    (p bs).andThen fun a rest => (many p n rest).andThen fun as rest => .whole (a :: as) rest

/-- A frame that nests no deeper than `depth`. -/
def frameWithin : (depth : Nat) → Bytes → Parse Frame
  | 0, _ => .invalid "nested too deep"
  | _, [] => .more
  | depth + 1, b :: bs =>
    match Char.ofNat b.toNat with
    | '+' => (line bs).andThen fun l rest => .whole (.simple l) rest
    | '-' => (line bs).andThen fun l rest =>
      match Utf8.decode? l with
      | some s => .whole (.error s) rest
      | none => .invalid "invalid text"
    | ':' => (number bs).andThen fun n rest => .whole (.integer n) rest
    | '$' => (number bs).andThen fun n rest =>
      if n = -1 then .whole .null rest
      else if n < 0 then .invalid "invalid length"
      else (block n.toNat rest).andThen fun b rest => .whole (.bulk b) rest
    | '*' => (number bs).andThen fun n rest =>
      if n = -1 then .whole .null rest
      else if n < 0 then .invalid "invalid length"
      else (many (frameWithin depth) n.toNat rest).andThen fun fs rest => .whole (.array fs) rest
    | _ => .invalid "invalid frame type"

/-- The frame at the front of the octets. -/
def frame (bs : Bytes) : Parse Frame := frameWithin (bs.length + 1) bs

/-- The codec of the protocol. It leaves the octets where they are unless there is a frame. -/
def resp2 : Codec where
  encode f := .ok f.octets
  decode bs :=
    match frame bs with
    | .whole f rest => (.ok (some f), rest)
    | .more => (.ok none, bs)
    | .invalid m => (.error m, bs)

/-- A connection to a peer: its codec, its address, and the octets received and not yet used. -/
structure Connection where
  codec : Codec
  addr : String
  received : Bytes := []

namespace Connection

/-- The frame at the front of the octets received, or none if it has not arrived. -/
def frame? (c : Connection) : Except ClusterError (Option Frame) × Connection :=
  let (found, received) := c.codec.decode c.received
  (found.mapError .protocol, { c with received })

/-- Takes octets that arrived. -/
def feed (c : Connection) (piece : Bytes) : Connection := { c with received := c.received ++ piece }

/-- Receives a frame from a stream, of which the pieces are given that it is read in. A piece without octets is the end of
the stream, and so is the end of the list. The pieces that are left have not been read. -/
def readFrame (c : Connection) (pieces : List Bytes) : Except ClusterError Frame × Connection × List Bytes :=
  match c.frame? with
  | (.error e, c) => (.error e, c, pieces)
  | (.ok (some f), c) => (.ok f, c, pieces)
  | (.ok none, c) =>
    match pieces with
    | [] => (.error (.closed c.addr), c, [])
    | piece :: pieces => if piece.isEmpty then (.error (.closed c.addr), c, pieces) else (c.feed piece).readFrame pieces

/-- Sends a command to a peer that answers with the given pieces after those that are still under
way: the octets sent, the reply, and the connection and pieces left over. -/
def execute (c : Connection) (cmd : Command) (pieces : List Bytes) :
    Bytes × Except ClusterError Reply × Connection × List Bytes :=
  match c.codec.encode (.ofCommand cmd) with
  | .error m => ([], .error (.protocol m), c, pieces)
  | .ok sent =>
    let (found, c, left) := c.readFrame pieces
    (sent, found.map Frame.toReply, c, left)

end Connection

end SlotSql.Cluster.Wire
