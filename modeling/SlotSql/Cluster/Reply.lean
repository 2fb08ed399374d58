import SlotSql.Cluster.Error
import SlotSql.Number.Integer
import SlotSql.Text.Blank
import SlotSql.Text.Pieces
import SlotSql.Text.Utf8
/-!
# Replies

What a node answers to a command, and the two error replies that the sender acts on: a redirection
to another node and the demand for a password.
-/
namespace SlotSql.Cluster

/-- A reply. -/
inductive Reply where
  | status (s : String)
  | error (s : String)
  | integer (n : Int)
  | bulk (b : Bytes)
  | array (items : List Reply)
  | nil
  deriving Repr, Inhabited

/-- Where a slot has moved to. -/
structure Redirect where
  slot : Nat
  host : String
  port : Nat
  deriving DecidableEq, Repr

/-- The address of a redirection. -/
def Redirect.addr (r : Redirect) : String := r.host ++ ":" ++ toString r.port

namespace Reply

/-- A bulk reply of a text. -/
def ofText (s : String) : Reply := bulk (Utf8.bytes s)

/-- The status of a command that succeeded. -/
def ok : Reply := status "OK"

/-- The name of the kind of a reply. -/
def kind : Reply → String
  | status _ => "status"
  | error _ => "error"
  | integer _ => "integer"
  | bulk _ => "bulk"
  | array _ => "array"
  | nil => "nil"

/-- An error reply. -/
def isError : Reply → Bool
  | error _ => true
  | _ => false

/-- The nil reply. -/
def isNil : Reply → Bool
  | nil => true
  | _ => false

/-- The text of a status, an error or a bulk reply. -/
def text? : Reply → Option String
  | status s | error s => some s
  | bulk b => some (Utf8.decodeLossy b)
  | _ => none

/-- The octets of a bulk or status reply. -/
def bytes? : Reply → Option Bytes
  | bulk b => some b
  | status s => some (Utf8.bytes s)
  | _ => none

/-- The number of an integer reply, or the one that a bulk reply writes. -/
def integer? : Reply → Option Int
  | integer n => some n
  | bulk b => (Utf8.decode? b).bind Number.int64?
  | _ => none

/-- The items of an array reply. -/
def toArray (command : String) : Reply → Except ClusterError (List Reply)
  | array items => .ok items
  | r => .error (.unexpectedReply command "array" r.kind)

/-- The text of a bulk, status or integer reply; none for nil. -/
def toText? (command : String) : Reply → Except ClusterError (Option String)
  | nil => .ok none
  | bulk b => .ok (some (Utf8.decodeLossy b))
  | status s => .ok (some s)
  | integer n => .ok (some (toString n))
  | r => .error (.unexpectedReply command "bulk" r.kind)

/-- The redirection that an error reply `MOVED slot host:port` asks for. -/
def redirect? : Reply → Option Redirect
  | error m =>
    match (Text.words m.toList).map String.ofList with
    | "MOVED" :: slot :: addr :: _ => do
      let slot ← Number.nat16? slot
      let (host, port) ← Text.cutLast? ':' addr.toList
      let port ← Number.nat16? (String.ofList port)
      some ⟨slot, String.ofList host, port⟩
    | _ => none
  | _ => none

/-- Whether the node asks for a password. -/
def isNoAuth : Reply → Bool
  | error m => "NOAUTH".toList.isPrefixOf m.toList
  | _ => false

mutual

/-- The reply as it is shown. -/
def display : Reply → String
  | status s => s
  | error s => "(error) " ++ s
  | integer n => "(integer) " ++ toString n
  | bulk b => "\"" ++ Utf8.decodeLossy b ++ "\""
  | nil => "(nil)"
  | array [] => "(empty array)"
  | array (i :: is) => "\n".intercalate (displayItems 1 (i :: is))

/-- The items of an array, numbered from `n`. -/
def displayItems (n : Nat) : List Reply → List String
  | [] => []
  | i :: is => (toString n ++ ") " ++ i.display) :: displayItems (n + 1) is

end

end Reply
end SlotSql.Cluster
