import SlotSql.Cluster.Transcript
import SlotSql.Cluster.Wire
import SlotSql.CommandLine.Program
import Std.Async.DNS
import Std.Async.TCP
import Std.Async.Timer
import Std.Time.DateTime.Timestamp
/-!
# The command line

Reads what the program is given, puts questions to the network, and prints what is shown.
-/
namespace SlotSql.CommandLine

open Cluster Console Std.Async

/-! ## The network -/

/-- An open connection. -/
structure Peer where
  connection : Wire.Connection
  timeoutMs : Nat
  socket : TCP.Socket.Client

/-- Waits for the end of some work, but not for ever. -/
def within {α : Type} [Inhabited α] (ms : Nat) (work : Async α) : IO α :=
  (Async.race work (do
    sleep (.ofNat ms)
    throw (IO.userError "connection timed out"))).block

/-- The address of a port on a host. -/
def socketAddress (port : Nat) : Std.Net.IPAddr → Std.Net.SocketAddress
  | .v4 addr => .v4 ⟨addr, port.toUInt16⟩
  | .v6 addr => .v6 { addr, port := port.toUInt16 }

/-- Connects to the first host that accepts the connection. -/
def connectFirst (node : NodeConfig) : (reason : String) → List Std.Net.IPAddr →
    IO (Except ClusterError Peer)
  | reason, [] => return .error (.connectionFailed node.addr reason)
  | _, host :: hosts => do
    try
      let socket ← TCP.Socket.Client.mk
      within node.connectMs (socket.connect (socketAddress node.port host))
      socket.noDelay
      return .ok { connection := { codec := Wire.resp2, addr := node.addr }, timeoutMs := node.socketMs, socket }
    catch e => connectFirst node (toString e) hosts

/-- Opens a connection to a node. -/
def connectTo (node : NodeConfig) : IO (Except ClusterError Peer) := do
  try
    let hosts ← (DNS.getAddrInfo node.host (toString node.port)).block
    connectFirst node "address did not resolve" hosts.toList
  catch e => return .error (.connectionFailed node.addr (toString e))

/-- Receives a frame. -/
partial def receiveFrame (p : Peer) : IO (Except ClusterError Wire.Frame × Peer) := do
  let (found, connection) := p.connection.frame?
  let p := { p with connection }
  match found with
  | .error e => return (.error e, p)
  | .ok (some f) => return (.ok f, p)
  | .ok none =>
    match ← within p.timeoutMs (p.socket.recv? 16384) with
    | none => return (.error (.closed connection.addr), p)
    | some piece => receiveFrame { p with connection := connection.feed piece.toList }

/-- Sends a command and receives the reply to it. -/
def exchange (p : Peer) (cmd : Command) : IO (Except ClusterError Reply × Peer) := do
  match p.connection.codec.encode (.ofCommand cmd) with
  | .error m => return (.error (.protocol m), p)
  | .ok sent =>
    try
      within p.timeoutMs (p.socket.send ⟨sent.toArray⟩)
      let (found, p) ← receiveFrame p
      return (found.map Wire.Frame.toReply, p)
    catch e => return (.error (.io (toString e)), p)

/-- Answers a question; the connections that have been opened are numbered. -/
def answerOf (peers : IO.Ref (Array Peer)) : Question → IO Answered
  | .connect node => do
    match ← connectTo node with
    | .error e => return .failed e
    | .ok p =>
      peers.modify (·.push p)
      return .connected ((← peers.get).size - 1)
  | .send link cmd => do
    match (← peers.get)[link]? with
    | none => return .failed (.closed "")
    | some p =>
      let (r, p) ← exchange p cmd
      peers.modify fun ps => ps.setIfInBounds link p
      match r with
      | .ok r => return .replied r
      | .error e => return .failed e

/-- Runs a computation on a transcript until all its questions are answered; the result comes with
the answers. -/
partial def converse {α : Type} (answer : Question → IO Answered) (f : Transcript → α × Transcript)
    (answers : List Answered) : IO (α × List Answered) := do
  let (a, t) := f { answers }
  match t.question with
  | none => return (a, answers)
  | some q => converse answer f (answers ++ [← answer q])

/-! ## Consoles -/

/-- How the steps of a console are carried out. -/
structure Runner (σ κ : Type) where
  run : {α : Type} → ConsoleStep σ κ α → Console σ κ → IO (α × Console σ κ)

/-- Steps on a simulated cluster. -/
def Runner.simulated : Runner Simulation Simulation.Link where
  run act c := return act.run c

/-- Steps on a network. -/
def Runner.connected (answer : Question → IO Answered) : Runner Transcript Nat where
  run act c := do
    let f (t : Transcript) :=
      let context := { c.session.context with server := t }
      let (a, c) := act.run { c with session := { c.session with context } }
      ((a, c), c.session.context.server)
    return (← converse answer f []).1

/-- The time in seconds since 1970. -/
def secondsNow : IO Int := return (← Std.Time.Timestamp.now).toSecondsSinceUnixEpoch.val

/-- Prints what is shown. -/
def print (shown : List Shown) (micros : Nat) : IO Unit := do
  shown.forM fun x => do
    IO.print (x.outputText micros)
    IO.eprint x.errorText
  (← IO.getStdout).flush

variable {σ κ : Type} [Server σ κ]

/-- Carries out a step and prints what it shows. -/
def Runner.step {α : Type} (r : Runner σ κ) (act : ConsoleStep σ κ α) (c : Console σ κ) :
    IO (α × Console σ κ) := do
  let start ← IO.monoNanosNow
  let (a, c) ← r.run act { c with shown := [], now := ← secondsNow }
  print c.shown (((← IO.monoNanosNow) - start) / 1000)
  return (a, c)

/-- Carries out the lines of an input as they are typed. -/
partial def Runner.typed (r : Runner σ κ) (input : IO.FS.Stream) (c : Console σ κ) : IO Unit := do
  let line ← input.getLine
  if line.isEmpty then
    let _ ← r.step (runTyped []) c
  else
    let (done, c) ← r.step (runLine ((typedLines line).headD "")) c
    if !done then r.typed input c

/-- Carries out what the options ask for; the result is the exit code. -/
def Runner.perform (r : Runner σ κ) (o : Options) (s : Surroundings) (c : Console σ κ) : IO UInt32 := do
  match Task.ofOptions o with
  | .lines greeting =>
    if greeting then print c.banner 0
    r.typed (← IO.getStdin) c
    print [farewell] 0
    return 0
  | task =>
    match (← r.step (task.perform s "") c).1 with
    | .ok ok => return if ok then 0 else 1
    | .error f =>
      print [f.shown] 0
      return f.exitCode.toUInt32

/-- Ends with a failure. -/
def fail (f : Failure) : IO UInt32 := do
  print [f.shown] 0
  return f.exitCode.toUInt32

/-- Reads a file. -/
def readContent (path : String) : IO FileContent := do
  try
    return .text (← IO.FS.readFile path)
  catch
    | .noFileOrDirectory _ _ _ => return .missing
    | e => return .unreadable (toString e)

/-- What the program is given from outside, as far as it looks at it. -/
def surroundings (o : Options) : IO Surroundings := do
  let values ← Surroundings.variableNames.mapM fun name => return (name, ← IO.getEnv name)
  let bare : Surroundings :=
    { environment := fun name => (values.lookup name).join, file := fun _ => .missing, now := ← secondsNow }
  let files ← (bare.paths o).mapM fun path => return (path, ← readContent path)
  return { bare with file := fun path => (files.lookup path).getD .missing }

/-- Runs the program on a network. -/
def runConnected (c : Config) (o : Options) (p : Profile) (s : Surroundings) : IO UInt32 := do
  match Topology.new c with
  | .error e => fail (.cluster e)
  | .ok topology =>
    let peers ← IO.mkRef #[]
    let check (t : Transcript) : Unit × Transcript :=
      ((), (Context.check.run (.new t topology)).2.server)
    let (_, answers) ← converse (answerOf peers) check []
    match openConsole ({ answers } : Transcript) c o p s.now with
    | .error f => fail f
    | .ok console => (Runner.connected (answerOf peers)).perform o s console

/-- Runs the program. -/
def runWith (o : Options) : IO UInt32 := do
  let s ← surroundings o
  match s.profile o with
  | .error f => fail f
  | .ok p =>
    if o.memory then
      match openConsole Simulation.new Simulation.new.config o p s.now with
      | .error f => fail f
      | .ok console => Runner.simulated.perform o s console
    else
      match p.cluster with
      | .error f => fail (.engine f.toError)
      | .ok c => runConnected c o p s

end SlotSql.CommandLine

open SlotSql.CommandLine in
/-- The command line of the program. -/
def main (args : List String) : IO UInt32 := do
  match Request.ofWords args with
  | .help =>
    IO.print helpText
    return 0
  | .version =>
    IO.print versionLine
    return 0
  | .refused =>
    IO.eprint refusalText
    return 2
  | .run o => runWith o
