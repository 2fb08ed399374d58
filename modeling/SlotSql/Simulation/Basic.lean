import SlotSql.Cluster.Config
import SlotSql.Cluster.Slot
import SlotSql.Store.Command
/-!
# A simulated cluster

Three masters on one host share the slots; each may have a replica, which knows its master's data
and redirects commands on keys to it. Failures can be arranged: a node can be down, it can be given
replies to answer instead of its own, and cluster support can be switched off.
-/
namespace SlotSql.Simulation

open SlotSql.Cluster SlotSql.Store

/-- The host of every node. -/
def host : String := "127.0.0.1"

/-- The port of the first master. -/
def basePort : Nat := 7000

/-- A part of the slots with its data and the scans under way on it. -/
structure Shard where
  firstSlot : Nat
  lastSlot : Nat
  /-- The node that owns the slots. -/
  master : Nat
  data : Data := .empty
  /-- The first key of the page that a cursor asks for. -/
  cursors : List (Nat × String) := []
  nextCursor : Nat := 1

/-- A node. -/
structure SimNode where
  port : Nat
  shard : Nat
  isMaster : Bool
  down : Bool := false
  /-- Replies to answer instead of the node's own, in order. -/
  injected : List Reply := []
  /-- The names of the commands received, the last one first. -/
  log : List String := []

/-- The address of a node. -/
def SimNode.addr (n : SimNode) : String := addrText host n.port

end Simulation

open SlotSql.Cluster SlotSql.Store SlotSql.Simulation in
/-- A simulated cluster. -/
structure Simulation where
  nodes : List SimNode
  shards : List Shard
  password : Option String := none
  clusterEnabled : Bool := true

namespace Simulation

open SlotSql.Cluster SlotSql.Store

/-- The slots of the three masters. -/
def slotRanges : List (Nat × Nat) := [(0, 5460), (5461, 10922), (10923, 16383)]

/-- Three masters without data. -/
def new : Simulation where
  nodes := (List.range 3).map fun i => { port := basePort + i, shard := i, isMaster := true }
  shards := slotRanges.mapIdx fun i r => { firstSlot := r.1, lastSlot := r.2, master := i }

/-- The cluster with one replica for each master. -/
def withReplicas (s : Simulation) : Simulation :=
  { s with nodes := s.nodes ++ s.shards.mapIdx fun i _ =>
      { port := basePort + s.nodes.length + i, shard := i, isMaster := false } }

/-- The configuration that lists every node. -/
def config (s : Simulation) : Config where
  nodes := s.nodes.map fun n => { host, port := n.port }
  password := s.password

/-- The index of the node at an address. -/
def nodeAt? (s : Simulation) (addr : String) : Option Nat := s.nodes.findIdx? fun n => n.addr == addr

/-- Changes the node at an address, if there is one. -/
def modifyNode (s : Simulation) (addr : String) (f : SimNode → SimNode) : Simulation :=
  match s.nodeAt? addr with
  | none => s
  | some i => { s with nodes := s.nodes.modify i f }

/-- Makes a node answer with the given reply once, after those arranged before. -/
def inject (s : Simulation) (addr : String) (r : Reply) : Simulation :=
  s.modifyNode addr fun n => { n with injected := n.injected ++ [r] }

/-- Takes a node down or brings it back. -/
def setDown (s : Simulation) (addr : String) (down : Bool) : Simulation :=
  s.modifyNode addr fun n => { n with down }

/-- The names of the commands that a node has received, the first one first. -/
def commandsFor (s : Simulation) (addr : String) : List String :=
  match s.nodeAt? addr with
  | none => []
  | some i => ((s.nodes[i]?).map fun n => n.log.reverse).getD []

/-- The shard of a slot. -/
def shardOf (s : Simulation) (slot : Nat) : Nat :=
  (s.shards.findIdx? fun h => h.firstSlot ≤ slot && slot ≤ h.lastSlot).getD 0

/-- The data of a shard. -/
def dataOf (s : Simulation) (shard : Nat) : Data := ((s.shards[shard]?).map Shard.data).getD .empty

/-- All keys, sorted. -/
def keys (s : Simulation) : List String := (s.shards.flatMap fun h => h.data.keys).mergeSort (· ≤ ·)

/-- The number of keys. -/
def keyCount (s : Simulation) : Nat := s.shards.foldl (fun n h => n + h.data.size) 0

/-- A field of a hash, read past all routing. -/
def hget? (s : Simulation) (key field : String) : Option Bytes :=
  match (s.dataOf (s.shardOf (slotOf key))).get? key with
  | some (.hash h) => h.get? field
  | _ => none

end Simulation
end SlotSql
