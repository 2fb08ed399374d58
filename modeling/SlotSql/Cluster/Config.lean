import SlotSql.Error
import SlotSql.Number.Integer
import SlotSql.Text.Blank
import SlotSql.Text.Pieces
import SlotSql.Toml.Value
/-!
# Configured nodes

The nodes that an engine may talk to. Redirections are followed to these nodes only.
-/
namespace SlotSql.Cluster

/-- The address of a node, with what is needed to connect to it. -/
structure NodeConfig where
  host : String := "127.0.0.1"
  port : Nat := 6379
  /-- The password sent when the node asks for one. -/
  password : Option String := none
  connectMs : Nat := 3000
  socketMs : Nat := 6000
  deriving DecidableEq, Repr

/-- An address as host, colon and port. -/
def addrText (host : String) (port : Nat) : String := host ++ ":" ++ toString port

/-- The address of a node. -/
def NodeConfig.addr (n : NodeConfig) : String := addrText n.host n.port

/-- What can be wrong with a cluster configuration. -/
inductive ConfigFault where
  | emptyAddress
  | badPort (spec : String)
  | missingHost (spec : String)
  | noNodes
  | tls
  | zeroPort (host : String)
  | zeroTimeout (addr : String)
  | listedTwice (addr : String)
  /-- A file that is not well-formed or has values of wrong types. -/
  | malformed
  deriving DecidableEq, Repr

/-- The text of a fault. -/
def ConfigFault.message : ConfigFault → String
  | .emptyAddress => "empty node address"
  | .badPort s => "invalid port in '" ++ s ++ "'"
  | .missingHost s => "missing host in '" ++ s ++ "'"
  | .noNodes => "at least one cluster node is required"
  | .tls => "TLS connections are not supported"
  | .zeroPort h => "node " ++ h ++ " has port 0"
  | .zeroTimeout a => "node " ++ a ++ " has a zero timeout"
  | .listedTwice a => "node " ++ a ++ " is listed twice"
  | .malformed => Toml.malformedText

/-- The fault as an error of the engine. -/
def ConfigFault.toError (f : ConfigFault) : EngineError := .config f.message

/-- The node that `host` or `host:port` names. -/
def NodeConfig.parse (spec : String) : Except ConfigFault NodeConfig :=
  let cs := Text.trim spec.toList
  let spec := String.ofList cs
  if cs.isEmpty then .error .emptyAddress
  else
    match Text.cutLast? ':' cs with
    | none => .ok { host := spec }
    | some (host, port) =>
      match Number.nat16? (String.ofList port) with
      | none => .error (.badPort spec)
      | some p => if host.isEmpty then .error (.missingHost spec) else .ok { host := String.ofList host, port := p }

/-- The nodes of a cluster, in the order in which scans visit them. -/
structure Config where
  nodes : List NodeConfig := []
  /-- The password of every node without its own. -/
  password : Option String := none
  tls : Bool := false
  deriving DecidableEq, Repr

namespace Config

/-- What is wrong with a node that follows the nodes `before`. -/
def nodeFault? (before : List NodeConfig) (n : NodeConfig) : Option ConfigFault :=
  if n.port = 0 then some (.zeroPort n.host)
  else if n.socketMs = 0 ∨ n.connectMs = 0 then some (.zeroTimeout n.addr)
  else if before.any fun m => m.host == n.host && m.port == n.port then some (.listedTwice n.addr)
  else none

/-- The first fault of a list of nodes that follows the nodes `before`. -/
def nodesFault? (before : List NodeConfig) : List NodeConfig → Option ConfigFault
  | [] => none
  | n :: ns =>
    match nodeFault? before n with
    | some f => some f
    | none => nodesFault? (before ++ [n]) ns

/-- The first condition that a configuration breaks. -/
def fault? (c : Config) : Option ConfigFault :=
  if c.nodes.isEmpty then some .noNodes
  else if c.tls then some .tls
  else nodesFault? [] c.nodes

/-- A configuration that keeps every condition. -/
def Valid (c : Config) : Prop := c.fault? = none

/-- Accepts a configuration that keeps every condition. -/
def validated (c : Config) : Except ConfigFault Config :=
  match c.fault? with
  | none => .ok c
  | some f => .error f

/-- The configuration of a list of addresses, separated by commas; empty entries are skipped. -/
def ofList (text : String) : Except ConfigFault Config := do
  let specs := (Text.split ',' text.toList).filter fun s => !(Text.trim s).isEmpty
  let nodes ← specs.mapM fun s => NodeConfig.parse (String.ofList s)
  validated { nodes }

/-- The password for the node at an index: its own, or the shared one. -/
def passwordFor (c : Config) (index : Nat) : Option String :=
  (c.nodes[index]?.bind (·.password)) <|> c.password

/-- The index of the node at an address. -/
def find? (c : Config) (host : String) (port : Nat) : Option Nat :=
  c.nodes.findIdx? fun n => n.port == port && n.host == host

end Config
end SlotSql.Cluster
