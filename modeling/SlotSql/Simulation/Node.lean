import SlotSql.Cluster.Context
import SlotSql.Pattern.Glob
import SlotSql.Simulation.Basic
/-!
# Nodes of a simulated cluster

What a node answers to a command. Commands on keys are answered by the master of the keys' slot
only; any other node names that master. A scan goes through the sorted keys of a shard page by page;
the cursor of a page is good for one use.
-/
namespace SlotSql.Simulation

open SlotSql.Cluster SlotSql.Store

/-- The state of a connection to a node. -/
structure Link where
  node : Nat
  authenticated : Bool := false

/-- The shard on which a node runs a command on the given keys, or the error reply. -/
def route (s : Simulation) (node : Nat) (keys : List String) : Except Reply Nat :=
  match keys with
  | [] => .ok 0
  | k :: ks =>
    let slot := slotOf k
    if ks.any fun k => slotOf k != slot then
      .error (.error "CROSSSLOT Keys in request don't hash to the same slot")
    else
      let shard := s.shardOf slot
      match s.nodes[node]? with
      | none => .error (.error "ERR no such node")
      | some me =>
        if me.shard = shard ∧ me.isMaster then .ok shard
        else
          let addr := do
            let h ← s.shards[shard]?
            let m ← s.nodes[h.master]?
            some m.addr
          .error (.error ("MOVED " ++ toString slot ++ " " ++ addr.getD ""))

/-- What a scan asks for. -/
structure ScanRequest where
  cursor : Nat
  pattern : String := "*"
  count : Nat := 10

/-- Takes the options of a scan. -/
def ScanRequest.options (r : ScanRequest) : List String → Except Reply ScanRequest
  | [] => .ok r
  | [_] => .error (.error "ERR syntax error")
  | name :: value :: rest =>
    match Text.asciiUpper name with
    | "MATCH" => { r with pattern := value }.options rest
    | "COUNT" =>
      match Number.nat64? value with
      | some n =>
        if 0 < n then { r with count := n }.options rest else .error (.error "ERR syntax error")
      | none => .error (.error "ERR syntax error")
    | _ => .error (.error "ERR syntax error")

/-- The request of the given arguments. -/
def ScanRequest.read (args : List String) : Except Reply ScanRequest :=
  match args with
  | [] => .error (wrongArity "scan")
  | cursor :: opts =>
    if opts.length % 2 ≠ 0 then .error (wrongArity "scan")
    else
      match Number.nat64? cursor with
      | none => .error (.error "ERR invalid cursor")
      | some cursor => ScanRequest.options { cursor } opts

/-- A page of the keys of a shard. -/
def Shard.scan (h : Shard) (r : ScanRequest) : Reply × Shard :=
  let start? : Option (List String × List (Nat × String)) :=
    if r.cursor = 0 then some (h.data.keys, h.cursors)
    else
      (h.cursors.lookup r.cursor).map fun key =>
        (h.data.keysFrom key, h.cursors.filter fun c => c.1 != r.cursor)
  match start? with
  | none => (.error "ERR invalid cursor", h)
  | some (keys, cursors) =>
    let found := (keys.take r.count).filter (Glob.matchesKey r.pattern)
    let (next, h) := match (keys.drop r.count).head? with
      | none => (0, { h with cursors })
      | some key =>
        (h.nextCursor,
          { h with cursors := (h.nextCursor, key) :: cursors, nextCursor := h.nextCursor + 1 })
    (.array [.ofText (toString next), .array (found.map .ofText)], h)

/-- A scan on a node. -/
def scan (s : Simulation) (node : Nat) (args : List String) : Reply × Simulation :=
  match ScanRequest.read args with
  | .error e => (e, s)
  | .ok r =>
    let shard := ((s.nodes[node]?).map SimNode.shard).getD 0
    match s.shards[shard]? with
    | none => (.error "ERR invalid cursor", s)
    | some h =>
      let (reply, h) := h.scan r
      (reply, { s with shards := s.shards.set shard h })

/-- The lines of a section of a status. -/
def part (title : String) (entries : List (String × String)) : String :=
  "# " ++ title ++ "\r\n" ++ String.join (entries.map fun (k, v) => k ++ ":" ++ v ++ "\r\n")

/-- The replication entries of a node. -/
def replication (s : Simulation) (me : SimNode) : List (String × String) :=
  if me.isMaster then
    let slaves := s.nodes.filter fun n => !n.isMaster && n.shard == me.shard
    [("role", "master"), ("connected_slaves", toString slaves.length)] ++
      slaves.mapIdx fun i n =>
        ("slave" ++ toString i,
          "ip=" ++ host ++ ",port=" ++ toString n.port ++ ",state=online,offset=0,lag=0")
  else
    let master := do
      let h ← s.shards[me.shard]?
      s.nodes[h.master]?
    [("role", "slave"), ("master_host", host),
      ("master_port", toString ((master.map SimNode.port).getD 0)), ("master_link_status", "up")]

/-- The status of a node: one section, or all. -/
def status (s : Simulation) (node : Nat) (name : Option String) : String :=
  match s.nodes[node]? with
  | none => ""
  | some me =>
    let server := part "Server"
      [("redis_version", "7.2.0"), ("redis_mode", "cluster"), ("tcp_port", toString me.port)]
    let clients := part "Clients" [("connected_clients", "1")]
    let replicas := part "Replication" (s.replication me)
    let cluster := part "Cluster" [("cluster_enabled", if s.clusterEnabled then "1" else "0")]
    let size := (s.dataOf me.shard).size
    let keyspace := part "Keyspace"
      (if size = 0 then [] else [("db0", "keys=" ++ toString size ++ ",expires=0,avg_ttl=0")])
    let all := "\r\n".intercalate [server, clients, replicas, cluster, keyspace]
    match name.map Text.asciiLower with
    | none | some "default" | some "all" | some "everything" => all
    | some "server" => server
    | some "clients" => clients
    | some "replication" => replicas
    | some "cluster" => cluster
    | some "keyspace" => keyspace
    | some _ => ""

/-- Runs a command on keys. -/
def onKeys (s : Simulation) (node : Nat) (name : String) (args : List (String × Bytes)) :
    Reply × Simulation :=
  if args.isEmpty then (wrongArity name, s)
  else
    match s.route node (KeyCommand.keysOf name (args.map Prod.fst)) with
    | .error e => (e, s)
    | .ok shard =>
      match KeyCommand.read name args with
      | .error e => (e, s)
      | .ok c =>
        let (r, d) := c.run (s.dataOf shard)
        (r, { s with shards := s.shards.modify shard fun h => { h with data := d } })

/-- The answer of a node to a command of an authenticated client. -/
def handle (s : Simulation) (node : Nat) (cmd : Command) : Reply × Simulation :=
  let name := cmd.name
  let words := cmd.words.map fun w => (Utf8.decodeLossy w, w)
  let args := words.drop 1
  if name = "PING" then (.status "PONG", s)
  else if name = "INFO" then (.ofText (s.status node ((args.head?).map Prod.fst)), s)
  else if name = "SCAN" then s.scan node (args.map Prod.fst)
  else if KeyCommand.manyKeyNames.contains name ∨ KeyCommand.oneKeyNames.contains name then
    s.onKeys node name args
  else (.error ("ERR unknown command '" ++ ((words.head?).map Prod.fst).getD "" ++ "'"), s)

/-- The answer to a password, and whether it was the right one. -/
def auth (s : Simulation) (args : List String) : Reply × Bool :=
  match args, s.password with
  | [_], none => (.error "ERR AUTH <password> called without any password configured", false)
  | [p], some password =>
    if p = password then (.ok, true)
    else (.error "WRONGPASS invalid username-password pair or user is disabled.", false)
  | _, _ => (wrongArity "auth", false)

/-- Opens a connection to a node, unless it is down or there is none. -/
def connect (n : NodeConfig) (s : Simulation) : Except ClusterError Link × Simulation :=
  let refused := (.error (.connectionFailed n.addr "connection refused"), s)
  match s.nodeAt? n.addr with
  | none => refused
  | some i =>
    match s.nodes[i]? with
    | none => refused
    | some node => if node.down then refused else (.ok { node := i }, s)

/-- Sends a command over a connection. -/
def execute (l : Link) (cmd : Command) (s : Simulation) : Except ClusterError Reply × Link × Simulation :=
  match s.nodes[l.node]? with
  | none => (.error (.unknownNode ("#" ++ toString l.node)), l, s)
  | some me =>
    if me.down then (.error (.closed me.addr), l, s)
    else
      let noted := { me with log := cmd.name :: me.log }
      match me.injected with
      | r :: rs => (.ok r, l, { s with nodes := s.nodes.set l.node { noted with injected := rs } })
      | [] =>
        let s := { s with nodes := s.nodes.set l.node noted }
        if cmd.name = "AUTH" then
          let (r, accepted) := s.auth ((cmd.words.drop 1).map Utf8.decodeLossy)
          (.ok r, { l with authenticated := l.authenticated || accepted }, s)
        else if s.password.isSome ∧ l.authenticated = false then
          (.ok (.error "NOAUTH Authentication required."), l, s)
        else
          let (r, s) := s.handle l.node cmd
          (.ok r, l, s)

mutual

/-- How many replies a reply consists of. -/
def replySize : Reply → Nat
  | .array items => itemsSize items + 1
  | _ => 1

/-- How many replies the items of an array consist of. -/
def itemsSize : List Reply → Nat
  | [] => 0
  | i :: is => replySize i + itemsSize is

end

/-- A bound on the pages of a scan and on the keys that it can find. Each reply that a node answers
instead of its own may send a scan back once, and may name any keys. -/
def patience (s : Simulation) : Nat :=
  let injected := s.nodes.flatMap SimNode.injected
  (s.keyCount + itemsSize injected + 2) * (injected.length + 1) * (s.nodes.length + 1)

instance : Server Simulation Link where
  connect := connect
  execute := execute
  patience := patience

end SlotSql.Simulation
