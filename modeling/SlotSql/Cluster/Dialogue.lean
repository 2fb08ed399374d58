import SlotSql.Cluster.Command
import SlotSql.Cluster.Reply
/-!
# Dialogues with a cluster

A dialogue is a computation that asks a cluster commands and goes on with what is answered. It
knows nothing of connections, redirections and passwords: who runs it sees to these. A dialogue is
a finite tree, so each run of it ends, and several dialogues can be run interleaved.

Results:
* `Dialogue` is a lawful monad.
-/
namespace SlotSql.Cluster

/-- Whom a command is for: the node that the sender takes for the right one, or a given node. -/
inductive Target where
  | active
  | node (index : Nat)
  deriving DecidableEq, Repr

/-- A computation that asks commands. -/
inductive Dialogue (α : Type) where
  | done (a : α)
  | ask (target : Target) (cmd : Command) (next : Except ClusterError Reply → Dialogue α)

namespace Dialogue

variable {α β : Type}

/-- Goes on with the result of a dialogue. -/
def bind : Dialogue α → (α → Dialogue β) → Dialogue β
  | done a, f => f a
  | ask t c next, f => ask t c fun r => (next r).bind f

instance : Monad Dialogue where
  pure := done
  bind := bind

theorem bind_done (x : Dialogue α) : x.bind done = x := by
  induction x with
  | done a => rfl
  | ask t c next ih => simp only [bind, ih]

theorem bind_assoc {γ : Type} (x : Dialogue α) (f : α → Dialogue β) (g : β → Dialogue γ) :
    (x.bind f).bind g = x.bind fun a => (f a).bind g := by
  induction x with
  | done a => rfl
  | ask t c next ih => simp only [bind, ih]

instance : LawfulMonad Dialogue :=
  LawfulMonad.mk' Dialogue (fun x => bind_done x) (fun _ _ => rfl) (fun x f g => bind_assoc x f g)

end Dialogue

/-- A dialogue that can fail. -/
abbrev Asking (α : Type) := ExceptT ClusterError Dialogue α

namespace Asking

/-- One command to the node that the sender takes for the right one. -/
def command (cmd : Command) : Asking Reply := ExceptT.mk (.ask .active cmd .done)

/-- One command to a given node. -/
def commandOn (index : Nat) (cmd : Command) : Asking Reply := ExceptT.mk (.ask (.node index) cmd .done)

/-- The number that a reply must be. -/
def integerOf (name : String) (r : Reply) : Asking Int :=
  match r.integer? with
  | some n => return n
  | none => throw (.unexpectedReply name "integer" r.kind)

/-- Asks whether a node is there. -/
def ping (index : Nat) : Asking Unit := do let _ ← commandOn index .ping

/-- Whether a key exists. -/
def existsKey (key : String) : Asking Bool := do
  return 0 < (← integerOf "EXISTS" (← command (.existsKey key)))

/-- Deletes keys of one slot; the result is how many there were. -/
def del (keys : List String) : Asking Int := do
  if keys.isEmpty then return 0
  integerOf "DEL" (← command (.del keys))

/-- The octets of a hash field, if there are any. -/
def fieldValue : Reply → Asking (Option Bytes)
  | .nil => return none
  | .bulk b => return some b
  | .status s => return some (Utf8.bytes s)
  | r => throw (.unexpectedReply "HMGET" "bulk" r.kind)

/-- The values of fields of a hash, in order. -/
def hmget (key : String) (fields : List String) : Asking (List (Option Bytes)) := do
  let items ← (← command (.hmget key fields)).toArray "HMGET"
  if items.length ≠ fields.length then
    throw (.malformedReply "HMGET"
      (toString items.length ++ " values for " ++ toString fields.length ++ " fields"))
  items.mapM fieldValue

/-- Writes fields of a hash. -/
def hmset (key : String) (pairs : List (String × Bytes)) : Asking Unit := do
  let _ ← command (.hmset key pairs)

/-- The fields and values that take turns in a reply. -/
def fieldPairs : List Reply → Asking (List (String × Bytes))
  | f :: v :: rest => do
    let some name ← f.toText? "HGETALL" | throw (.unexpectedReply "HGETALL" "bulk" "nil")
    match v with
    | .bulk b => return (name, b) :: (← fieldPairs rest)
    | v => throw (.unexpectedReply "HGETALL" "bulk" v.kind)
  | _ => return []

/-- All fields and values of a hash. -/
def hgetall (key : String) : Asking (List (String × Bytes)) := do
  fieldPairs (← (← command (.hgetall key)).toArray "HGETALL")

/-- A page of a scan: the cursor of the next page, zero after the last, and the keys. -/
structure Page where
  cursor : Nat
  keys : List String
  deriving DecidableEq, Repr

/-- The texts of the items of a reply; nil items are left out. -/
def textItems (name : String) (items : List Reply) : Asking (List String) := do
  return (← items.mapM fun r => (r.toText? name : Except ClusterError (Option String))).filterMap id

/-- One page of the keys of a node. -/
def scan (index cursor : Nat) (pattern : String) (count : Nat) : Asking Page := do
  match ← (← commandOn index (.scan cursor pattern count)).toArray "SCAN" with
  | [next, keys] =>
    let some cursor := next.text?.bind Number.nat64?
      | throw (.malformedReply "SCAN" "cursor is not a number")
    return ⟨cursor, ← textItems "SCAN" (← keys.toArray "SCAN")⟩
  | _ => throw (.malformedReply "SCAN" "expected two elements")

/-- Adds members to a set; the result is how many were new. -/
def sadd (key : String) (members : List String) : Asking Int := do
  if members.isEmpty then return 0
  integerOf "SADD" (← command (.sadd key members))

/-- Removes members from a set; the result is how many there were. -/
def srem (key : String) (members : List String) : Asking Int := do
  if members.isEmpty then return 0
  integerOf "SREM" (← command (.srem key members))

/-- The members of a set, sorted. -/
def smembers (key : String) : Asking (List String) := do
  let members ← textItems "SMEMBERS" (← (← command (.smembers key)).toArray "SMEMBERS")
  return members.mergeSort (· ≤ ·)

end Asking
end SlotSql.Cluster
