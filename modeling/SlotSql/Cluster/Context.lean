import SlotSql.Cluster.Dialogue
import SlotSql.Cluster.Topology
/-!
# Contexts

A context holds the connections of one session, at most one to each configured node, and the active
node, to which commands on keys are sent. A reply that names another node is followed once, and a
demand for a password is met once; both are invisible to who asks the command.
-/
namespace SlotSql.Cluster

/-- What connections are opened to. `σ` is the state of all that is not the client, `κ` the state of
one connection. -/
class Server (σ : Type) (κ : outParam Type) where
  /-- Opens a connection to a node. -/
  connect : NodeConfig → σ → Except ClusterError κ × σ
  /-- Sends a command over a connection and waits for the reply. -/
  execute : κ → Command → σ → Except ClusterError Reply × κ × σ
  /-- A number of pages after which every scan of the present keys has ended. -/
  patience : σ → Nat

/-- Connections and routing state of one session. -/
structure Context (σ κ : Type) where
  server : σ
  topology : Topology
  /-- The open connection to each configured node. -/
  connections : List (Option κ)
  /-- The index of the active node. -/
  active : Nat := 0
  /-- The greatest number of words of a command. -/
  maxArgs : Nat := 252

/-- A step of a context; its state is kept when the step fails. -/
abbrev Step (σ κ α : Type) := ExceptT ClusterError (StateM (Context σ κ)) α

namespace Context

variable {σ κ : Type}

/-- A context without connections. -/
def new (server : σ) (topology : Topology) : Context σ κ :=
  { server, topology, connections := List.replicate topology.size none }

/-- Whether a connection to the node is open. -/
def isConnected (c : Context σ κ) (index : Nat) : Bool := ((c.connections[index]?).bind id).isSome

/-- Replaces the connection to a node. -/
def setConnection (c : Context σ κ) (index : Nat) (k : Option κ) : Context σ κ :=
  { c with connections := c.connections.set index k }

variable [Server σ κ]

/-- The connection to a node, opened if it is not open. -/
def connection (index : Nat) : Step σ κ κ := do
  let c ← get
  let node ← c.topology.node index
  match c.connections[index]? with
  | none => throw (.unknownNode node.addr)
  | some (some k) => return k
  | some none =>
    let (result, server) := Server.connect node c.server
    match result with
    | .error e => set { c with server }; throw e
    | .ok k => set ({ c with server }.setConnection index (some k)); return k

/-- Sends a command to a node. A connection that fails is dropped. -/
def send (index : Nat) (cmd : Command) : Step σ κ Reply := do
  let k ← connection index
  let c ← get
  let (result, k, server) := Server.execute k cmd c.server
  match result with
  | .ok reply => set ({ c with server }.setConnection index (some k)); return reply
  | .error e =>
    set ({ c with server }.setConnection index (if e.isConnectionError then none else some k))
    throw e

/-- The node that a redirection names, which becomes the active one if `track`. -/
def follow (track : Bool) (r : Redirect) : Step σ κ Nat := do
  match (← get).topology.config.find? r.host r.port with
  | none => throw (.redirect r.addr "node is not configured")
  | some target =>
    if track then modify fun c => { c with active := target }
    return target

/-- Sends the password for a node. -/
def authenticate (index : Nat) : Step σ κ Unit := do
  match (← get).topology.config.passwordFor index with
  | none => throw (.reply "NOAUTH and no password configured")
  | some password =>
    match ← send index (.auth password) with
    | .error m => throw (.reply m)
    | _ => return ()

/-- Sends a command, following a redirection and meeting a demand for a password, each unless that
has been done before. -/
def deliver (track : Bool) (moved authed : Bool) (index : Nat) (cmd : Command) : Step σ κ Reply := do
  let reply ← send index cmd
  match reply.redirect? with
  | some r =>
    if _hm : moved = true then throw (.redirect r.addr "redirected more than once")
    else deliver track true authed (← follow track r) cmd
  | none =>
    if _ha : reply.isNoAuth = true ∧ authed = false then
      authenticate index
      deliver track moved true index cmd
    else
      match reply with
      | .error m => throw (.reply m)
      | r => return r
termination_by (!moved).toNat + (!authed).toNat
decreasing_by
  · simp_all
  · simp_all

/-- Sends a command of acceptable length. -/
def dispatch (track : Bool) (index : Nat) (cmd : Command) : Step σ κ Reply := do
  cmd.validate (← get).maxArgs
  deliver track false false index cmd

/-- Sends a command to the active node; a redirection changes the active node. -/
def exec (cmd : Command) : Step σ κ Reply := do dispatch true (← get).active cmd

/-- Sends a command to a node. -/
def execOn (index : Nat) (cmd : Command) : Step σ κ Reply := dispatch false index cmd

/-- Sends a command to whom it is for. -/
def execTo : Target → Command → Step σ κ Reply
  | .active, cmd => exec cmd
  | .node i, cmd => execOn i cmd

/-- Runs a dialogue. -/
def perform {α : Type} : Dialogue α → StateM (Context σ κ) α
  | .done a => pure a
  | .ask target cmd next => do
    let r ← (execTo target cmd).run
    perform (next r)

/-- Runs a dialogue that can fail. -/
def ask {α : Type} (x : Asking α) : Step σ κ α := ExceptT.mk (perform x.run)

/-- The status of a node, which is kept in the topology. -/
def info (index : Nat) (part : Option String) : Step σ κ Info := do
  let text ← (← execOn index (.info part)).toText? "INFO"
  let i := Info.parse (text.getD "")
  modify fun c => { c with topology := c.topology.cacheInfo index (part.getD "default") i }
  return i

/-- The report of a node for a check. -/
def report (index : Nat) : Step σ κ NodeReport := do
  let addr := (← (← get).topology.node index).addr
  let part (name : String) : Step σ κ Info :=
    tryCatch (info index (some name)) fun e => throw (.topology addr e.message)
  let cluster ← part "cluster"
  let replication ← part "replication"
  return ⟨index, cluster, replication⟩

/-- Checks the cluster: asks every node for its report and applies them to the topology. -/
def check : Step σ κ Unit := do
  let reports ← (List.range (← get).topology.size).mapM report
  let t ← (← get).topology.applyCheck reports
  modify fun c => { c with topology := t }

end Context
end SlotSql.Cluster
