import SlotSql.Cluster.Config
import SlotSql.Cluster.Error
import SlotSql.Number.Integer
import SlotSql.Text.Blank
import SlotSql.Text.Pieces
/-!
# Topology

The configured nodes with their replication roles. A check of the cluster collects a report of each
node; it is accepted as a whole or not at all, and links each master with its replicas.

A node describes itself in lines `name:value`; lines that start with a hash sign are headings.

Results:
* `link_length`: linking two nodes keeps the list of nodes as long as it was.
-/
namespace SlotSql.Cluster

/-! ## The status of a node -/

/-- The entries of a status text, in order. -/
structure Info where
  entries : List (String × String)
  deriving DecidableEq, Repr

namespace Info

/-- The entries of a text. -/
def parse (text : String) : Info :=
  let lines := (Text.lines text.toList).map Text.trim
  let kept := lines.filter fun l => !l.isEmpty && l.head? != some '#'
  ⟨(kept.filterMap (Text.cut? [':'])).map fun (k, v) => (String.ofList k, String.ofList v)⟩

/-- The first value of a name. -/
def get? (i : Info) (name : String) : Option String := i.entries.lookup name

/-- The address that an entry `ip=host,port=number,…` of a replica gives. -/
def replicaEntry? (value : String) : Option (String × Nat) :=
  let step (acc : Option String × Option Nat) (part : List Char) : Option String × Option Nat :=
    match Text.cut? ['='] part with
    | some (k, v) =>
      let v := String.ofList v
      if k = "ip".toList then (some v, acc.2)
      else if k = "port".toList then (acc.1, Number.nat16? v)
      else acc
    | none => acc
  match (Text.split ',' value.toList).foldl step (none, none) with
  | (some ip, some port) => some (ip, port)
  | _ => none

/-- The numbers `i` with `i < n` for which an entry `slave<i>` exists, in order. The names are taken
from the entries, so that a large count costs nothing. -/
def replicaNumbers (i : Info) (n : Nat) : List Nat :=
  let numbers := i.entries.filterMap fun (k, _) =>
    (Text.stripStart? "slave".toList k.toList).bind fun ds =>
      (Number.digits? 10 ds).filter fun m => m < n ∧ toString m = String.ofList ds
  numbers.eraseDups.mergeSort (· ≤ ·)

/-- The addresses of the replicas that a master counts. -/
def replicas (i : Info) : List (String × Nat) :=
  let count := ((i.get? "connected_slaves").bind Number.nat64?).getD 0
  (i.replicaNumbers count).filterMap fun k =>
    (i.get? ("slave" ++ toString k)).bind replicaEntry?

/-- The address of the master of a replica. -/
def masterAddr? (i : Info) : Option (String × Nat) := do
  let host ← i.get? "master_host"
  let port ← (i.get? "master_port").bind Number.nat16?
  some (host, port)

end Info

/-! ## Nodes and their roles -/

/-- The replication role of a node. -/
inductive Role where
  | unknown
  | master
  | slave
  deriving DecidableEq, Repr

/-- The role that a status text gives. -/
def Role.parse (s : String) : Role :=
  if s = "master" then .master else if s = "slave" ∨ s = "replica" then .slave else .unknown

/-- The name of a role. -/
def Role.name : Role → String
  | .unknown => "unknown"
  | .master => "master"
  | .slave => "slave"

/-- A node with what the last check found out about it. -/
structure Node where
  index : Nat
  config : NodeConfig
  role : Role := .unknown
  /-- The index of the master of a replica. -/
  master : Option Nat := none
  /-- The indices of the replicas of a master. -/
  slaves : List Nat := []
  deriving DecidableEq, Repr

/-- The address of a node. -/
def Node.addr (n : Node) : String := n.config.addr

/-- A node counts as a master unless it is known to be a replica. -/
def Node.isMaster (n : Node) : Bool := n.role != .slave

/-- A node as it is shown. -/
def Node.display (n : Node) : String :=
  "#" ++ toString n.index ++ " " ++ n.addr ++ " (" ++ n.role.name ++ ")"

/-- What a node reports about itself during a check. -/
structure NodeReport where
  index : Nat
  cluster : Info
  replication : Info

/-- Nodes, cached status texts and whether a check has passed. -/
structure Topology where
  config : Config
  nodes : List Node
  /-- The last status of each node and section. -/
  cache : List ((Nat × String) × Info) := []
  checked : Bool := false

/-- The nodes of a configuration, with nothing known about them. -/
def freshNodes (c : Config) : List Node := c.nodes.mapIdx fun i n => { index := i, config := n }

/-- Makes `slave` a replica of `master`, unless they are the same node. -/
def link (nodes : List Node) (master slave : Nat) : List Node :=
  if master = slave then nodes
  else
    let withSlave := nodes.modify master fun n =>
      if n.slaves.contains slave then n else { n with slaves := n.slaves ++ [slave] }
    withSlave.modify slave fun n => { n with master := some master }

theorem link_length (nodes : List Node) (m s : Nat) : (link nodes m s).length = nodes.length := by
  unfold link; split <;> simp

namespace Topology

/-- The topology of a configuration that keeps every condition. -/
def new (c : Config) : Except ClusterError Topology :=
  match c.fault? with
  | some f => .error (.topology "-" f.toError.message)
  | none => .ok { config := c, nodes := freshNodes c }

/-- The number of nodes. -/
def size (t : Topology) : Nat := t.config.nodes.length

/-- The configuration of a node. -/
def node (t : Topology) (index : Nat) : Except ClusterError NodeConfig :=
  match t.config.nodes[index]? with
  | some n => .ok n
  | none => .error (.unknownNode ("#" ++ toString index))

/-- The indices of the masters, in order. -/
def masters (t : Topology) : List Nat := (t.nodes.filter Node.isMaster).map Node.index

/-- Notes the role that a report gives. -/
def noteRole (t : Topology) (nodes : List Node) (r : NodeReport) : Except ClusterError (List Node) := do
  let addr := (← t.node r.index).addr
  if r.cluster.get? "cluster_enabled" != some "1" then
    throw (.topology addr "cluster support is disabled")
  match ((r.replication.get? "role").map Role.parse).getD .unknown with
  | .unknown => throw (.topology addr "missing or unknown replication role")
  | role => return nodes.modify r.index fun n => { n with role }

/-- Links the nodes as a report says; addresses that are not configured are passed over. -/
def linkReport (c : Config) (nodes : List Node) (r : NodeReport) : List Node :=
  match (nodes[r.index]?).map Node.role with
  | some .master =>
    (r.replication.replicas.filterMap fun (h, p) => c.find? h p).foldl (fun ns s => link ns r.index s) nodes
  | some .slave =>
    match r.replication.masterAddr?.bind fun (h, p) => c.find? h p with
    | some m => link nodes m r.index
    | none => nodes
  | _ => nodes

/-- The topology after a check with the given reports. -/
def applyCheck (t : Topology) (reports : List NodeReport) : Except ClusterError Topology := do
  let nodes ← reports.foldlM t.noteRole (freshNodes t.config)
  return { t with nodes := reports.foldl (linkReport t.config) nodes, checked := true }

/-- Keeps the status of a node. -/
def cacheInfo (t : Topology) (index : Nat) (part : String) (i : Info) : Topology :=
  { t with cache := ((index, part), i) :: t.cache.filter fun e => e.1 != (index, part) }

/-- The last status of a node. -/
def cached? (t : Topology) (index : Nat) (part : String) : Option Info := t.cache.lookup (index, part)

end Topology
end SlotSql.Cluster
