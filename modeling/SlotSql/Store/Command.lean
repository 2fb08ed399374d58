import SlotSql.Cluster.Reply
import SlotSql.Store.KeyMap
import SlotSql.Text.Case
/-!
# Commands on keys

The store maps keys to hashes and sets, neither of which is ever empty. A key command is read from
its words, which can fail for their number, and then run on the map; a command on a key that holds
the other kind of value changes nothing.
-/
namespace SlotSql.Store

open SlotSql.Cluster (Reply)

/-- What a key holds. -/
inductive Value where
  | hash (fields : KeyMap Bytes)
  | set (members : KeyMap Unit)

/-- The keys of a store and what they hold. -/
abbrev Data := KeyMap Value

/-- A value without fields or members. -/
def Value.isEmpty : Value → Bool
  | .hash h => h.isEmpty
  | .set s => s.isEmpty

/-- The data with a value put under a key, or without the key if the value is empty. -/
def put (d : Data) (key : String) (v : Value) : Data := if v.isEmpty then d.erase key else d.insert key v

/-- A command on keys. -/
inductive KeyCommand where
  | countKeys (keys : List String)
  | del (keys : List String)
  /-- Writes fields; the reply counts the new ones if `counting`. -/
  | hset (counting : Bool) (key : String) (pairs : List (String × Bytes))
  | hmget (key : String) (fields : List String)
  | hgetall (key : String)
  | hdel (key : String) (fields : List String)
  | sadd (key : String) (members : List String)
  | srem (key : String) (members : List String)
  | smembers (key : String)
  | scard (key : String)

/-- The error reply for a wrong number of words. -/
def wrongArity (name : String) : Reply :=
  .error ("ERR wrong number of arguments for '" ++ Text.asciiLower name ++ "' command")

/-- The error reply for a key that holds the other kind of value. -/
def wrongType : Reply := .error "WRONGTYPE Operation against a key holding the wrong kind of value"

namespace KeyCommand

/-- Commands of any number of keys. -/
def manyKeyNames : List String := ["EXISTS", "DEL"]

/-- Commands of one key. -/
def oneKeyNames : List String :=
  ["HMSET", "HSET", "HMGET", "HGETALL", "HDEL", "SADD", "SREM", "SMEMBERS", "SCARD"]

/-- The keys that a command of the given name and arguments is about. -/
def keysOf (name : String) (args : List String) : List String :=
  if manyKeyNames.contains name then args else args.take 1

/-- Fields and values that take turns; the value is taken as octets. -/
def pairs? : List (String × Bytes) → Option (List (String × Bytes))
  | [] => some []
  | [_] => none
  | f :: v :: rest => (pairs? rest).map ((f.1, v.2) :: ·)

/-- The command of the given name and arguments, each as a text and as octets. -/
def read (name : String) (args : List (String × Bytes)) : Except Reply KeyCommand :=
  let texts := args.map Prod.fst
  match name, texts, args with
  | "EXISTS", k :: ks, _ => .ok (countKeys (k :: ks))
  | "DEL", k :: ks, _ => .ok (del (k :: ks))
  | "HGETALL", k :: _, _ => .ok (hgetall k)
  | "SMEMBERS", k :: _, _ => .ok (smembers k)
  | "SCARD", k :: _, _ => .ok (scard k)
  | "HMGET", k :: f :: fs, _ => .ok (hmget k (f :: fs))
  | "HDEL", k :: f :: fs, _ => .ok (hdel k (f :: fs))
  | "SADD", k :: m :: ms, _ => .ok (sadd k (m :: ms))
  | "SREM", k :: m :: ms, _ => .ok (srem k (m :: ms))
  | name, k :: _, _ :: p :: ps =>
    if name = "HMSET" ∨ name = "HSET" then
      match pairs? (p :: ps) with
      | some ps => .ok (hset (name == "HSET") k ps)
      | none => .error (wrongArity name)
    else .error (wrongArity name)
  | name, _, _ => .error (wrongArity name)

/-- The hash under a key, an empty one if there is none. -/
def hashAt (d : Data) (key : String) : Except Reply (KeyMap Bytes) :=
  match d.get? key with
  | none => .ok .empty
  | some (.hash h) => .ok h
  | some (.set _) => .error wrongType

/-- The set under a key, an empty one if there is none. -/
def setAt (d : Data) (key : String) : Except Reply (KeyMap Unit) :=
  match d.get? key with
  | none => .ok .empty
  | some (.set s) => .ok s
  | some (.hash _) => .error wrongType

/-- Answers from the hash under a key. -/
def readHash (d : Data) (key : String) (f : KeyMap Bytes → Reply) : Reply × Data :=
  match hashAt d key with
  | .ok h => (f h, d)
  | .error e => (e, d)

/-- Answers from the set under a key. -/
def readSet (d : Data) (key : String) (f : KeyMap Unit → Reply) : Reply × Data :=
  match setAt d key with
  | .ok s => (f s, d)
  | .error e => (e, d)

/-- Changes the hash under a key. -/
def changeHash (d : Data) (key : String) (f : KeyMap Bytes → Reply × KeyMap Bytes) : Reply × Data :=
  match hashAt d key with
  | .ok h => ((f h).1, put d key (.hash (f h).2))
  | .error e => (e, d)

/-- Changes the set under a key. -/
def changeSet (d : Data) (key : String) (f : KeyMap Unit → Reply × KeyMap Unit) : Reply × Data :=
  match setAt d key with
  | .ok s => ((f s).1, put d key (.set (f s).2))
  | .error e => (e, d)

/-- Takes items out of a map, counting those that were there. -/
def eraseAll {α : Type} (m : KeyMap α) (ks : List String) : Nat × KeyMap α :=
  ks.foldl (fun (n, m) k => (if m.contains k then n + 1 else n, m.erase k)) (0, m)

/-- Puts items into a map, counting those that were not there. -/
def insertAll {α : Type} (m : KeyMap α) (ps : List (String × α)) : Nat × KeyMap α :=
  ps.foldl (fun (n, m) (k, v) => (if m.contains k then n else n + 1, m.insert k v)) (0, m)

/-- Runs a command: the reply and the data afterwards. -/
def run (c : KeyCommand) (d : Data) : Reply × Data :=
  match c with
  | countKeys ks => (.integer ((ks.filter d.contains).length), d)
  | del ks => let (n, d) := eraseAll d ks; (.integer n, d)
  | hset counting key ps =>
    changeHash d key fun h =>
      let (n, h) := insertAll h ps
      (if counting then .integer n else .ok, h)
  | hmget key fs =>
    readHash d key fun h => .array (fs.map fun f => ((h.get? f).map Reply.bulk).getD .nil)
  | hgetall key => readHash d key fun h => .array (h.entries.flatMap fun (f, v) => [.ofText f, .bulk v])
  | hdel key fs => changeHash d key fun h => let (n, h) := eraseAll h fs; (.integer n, h)
  | sadd key ms =>
    changeSet d key fun s => let (n, s) := insertAll s (ms.map (·, ())); (.integer n, s)
  | srem key ms => changeSet d key fun s => let (n, s) := eraseAll s ms; (.integer n, s)
  | smembers key => readSet d key fun s => .array (s.keys.map .ofText)
  | scard key => readSet d key fun s => .integer s.size

end KeyCommand
end SlotSql.Store
