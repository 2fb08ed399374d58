import SlotSql.CommandLine.Options
import SlotSql.Configuration
import SlotSql.Console.Basic
import SlotSql.Simulation.Node
import SlotSql.Text.Width
/-!
# The program

The program reads its options, finds its profile, opens a session and carries out what it is asked
for: one command, one statement, a script, or the lines of its input. Its exit code is 0 if all went
well, 1 if a statement failed, and 2 if it could not begin.
-/
namespace SlotSql.CommandLine

open Cluster

/-- What comes of reading a file. -/
inductive FileContent where
  | text (s : String)
  | missing
  | unreadable (reason : String)
  deriving DecidableEq, Repr

/-- What the program is given from outside. -/
structure Surroundings where
  environment : String → Option String
  file : String → FileContent
  /-- The time in seconds since 1970. -/
  now : Int

/-- Why the program could not go on. -/
inductive Failure where
  /-- The profile could not be read; its path is told if it was asked for. -/
  | profile (path : Option String) (reason : String)
  /-- The settings or the nodes break a condition. -/
  | engine (cause : EngineError)
  | cluster (cause : ClusterError)
  /-- The nodes could not be checked. -/
  | unreachable (nodes : String) (cause : ClusterError)
  | script (path reason : String)
  deriving DecidableEq, Repr

namespace Failure

/-- The text of a failure. -/
def message : Failure → String
  | .profile none reason => reason
  | .profile (some path) reason => "cannot load config " ++ path ++ ": " ++ reason
  | .engine e => e.message
  | .cluster e => e.message
  | .unreachable nodes e => "cannot reach cluster at " ++ nodes ++ ": " ++ e.message
  | .script path reason => "cannot read " ++ path ++ ": " ++ reason

/-- The line that tells of a failure. -/
def shown (f : Failure) : Shown := .error ("Error: " ++ f.message)

/-- The exit code of a failure. -/
def exitCode : Failure → Nat
  | .script _ _ => 1
  | _ => 2

end Failure

/-- The text of a file, or why there is none. -/
def FileContent.toExcept : FileContent → Except String String
  | .text s => .ok s
  | .missing => .error "No such file or directory (os error 2)"
  | .unreadable reason => .error reason

namespace Surroundings

/-- A variable that is set and not empty. -/
def nonEmpty? (s : Surroundings) (name : String) : Option String :=
  (s.environment name).filter fun v => !v.isEmpty

/-- The directory of configuration files: one that is named, or one in the home directory. -/
def configHome? (s : Surroundings) : Option String :=
  ((s.nonEmpty? "XDG_CONFIG_HOME").filter fun d => d.toList.head? = some '/') <|>
    (s.nonEmpty? "HOME").map (· ++ "/.config")

/-- The places of the profile, the first one that exists counts. -/
def profilePaths (s : Surroundings) : List String :=
  ((configHome? s).map (· ++ "/kvsql/config.toml")).toList ++
    ((s.nonEmpty? "HOME").map (· ++ "/.kvsql/config.toml")).toList

/-- The files that the program may read. -/
def paths (s : Surroundings) (o : Options) : List String :=
  o.config.toList ++ s.profilePaths ++ o.file.toList

/-- The profile in a file; `asked` is the path if it was asked for. -/
def readProfile (asked : Option String) (c : FileContent) : Except Failure Profile := do
  let text ← (c.toExcept).mapError (.profile asked)
  match Profile.ofToml? text with
  | some p => return p
  | none => throw (.profile asked Toml.malformedText)

/-- The profile of the file that was asked for, or else of the first place where there is one. -/
def findProfile (s : Surroundings) (asked : Option String) : Except Failure Profile :=
  match asked with
  | some path => readProfile asked (s.file path)
  | none =>
    match (s.profilePaths.map s.file).find? (· ≠ .missing) with
    | some c => readProfile none c
    | none => .ok {}

/-- The variables that the program looks at. -/
def variableNames : List String := ["KVSQL_NODES", "KVSQL_PASSWORD", "XDG_CONFIG_HOME", "HOME"]

/-- The profile, with what options and variables change of it. -/
def profile (s : Surroundings) (o : Options) : Except Failure Profile := do
  let p ← s.findProfile o.config
  let p := { p with
    nodes := (o.nodes <|> s.environment "KVSQL_NODES").getD p.nodes
    password := o.password <|> s.environment "KVSQL_PASSWORD" <|> p.password }
  p.engine.validate.mapError .engine
  return p

end Surroundings

/-- Opens a session on the nodes of a cluster, which are checked first. -/
def openSession {σ κ : Type} [Server σ κ] (server : σ) (p : Profile) (c : Config) :
    Except Failure (Session σ κ) := do
  let t ← (Topology.new c).mapError .cluster
  match Context.check.run (.new server t) with
  | (.error e, _) => throw (.unreachable p.nodes e)
  | (.ok (), context) => (Session.new p.engine context).mapError .engine

/-- The format of the output: the one that was asked for, else the one of the profile, else the
grid. -/
def formatFor (o : Options) (p : Profile) : Format :=
  (o.output <|> Format.ofName? p.outputFormat).getD .table

/-- What the program carries out. -/
inductive Task where
  | command (text : String)
  | statement (text : String)
  | script (path : String)
  /-- The lines of the input, behind a greeting or not. -/
  | lines (greeting : Bool)
  deriving DecidableEq, Repr

/-- What options ask to be carried out. -/
def Task.ofOptions (o : Options) : Task :=
  match o.command, o.statement, o.file with
  | some text, _, _ => .command text
  | none, some text, _ => .statement text
  | none, none, some path => .script path
  | none, none, none => .lines (!o.quiet)

/-- A line without what backspaces take away: each the character in front of it and the marks on
that. -/
def withoutErased (line : List Char) : List Char :=
  let isMark (c : Char) : Bool := Text.WidthTables.standard.charWidth c == 0
  (line.foldl (fun (typed : List Char) c =>
    if c = '\x08' then (typed.dropWhile isMark).drop 1 else c :: typed) []).reverse

/-- The lines of an input, as they were typed. -/
def typedLines (input : String) : List String :=
  (Text.lines input.toList).map fun l => String.ofList (withoutErased l)

/-- What a run of the program shows, and its exit code. -/
structure Outcome where
  exitCode : Nat
  shown : List Shown := []
  deriving DecidableEq, Repr

namespace Outcome

/-- The outcome of a failure. -/
def ofFailure (f : Failure) (shown : List Shown) : Outcome :=
  ⟨f.exitCode, shown ++ [f.shown]⟩

/-- The output, when statements take so many microseconds. -/
def output (o : Outcome) (micros : Nat) : String := String.join (o.shown.map (Shown.outputText micros))

/-- The messages. -/
def messages (o : Outcome) : String := String.join (o.shown.map Shown.errorText)

end Outcome

/-- The last line of a run on typed lines. -/
def farewell : Shown := .output "Goodbye!"

/-- A console on the nodes of a cluster. -/
def openConsole {σ κ : Type} [Server σ κ] (server : σ) (c : Config) (o : Options) (p : Profile)
    (now : Int) : Except Failure (Console σ κ) := do
  let session ← openSession server p c
  return { session, format := formatFor o p, timing := p.timing, now }

/-- Carries out a task on a console; the result is whether all went well. -/
def Task.perform {σ κ : Type} [Server σ κ] (t : Task) (s : Surroundings) (input : String) :
    Console.ConsoleStep σ κ (Except Failure Bool) := do
  match t with
  | .command text => return .ok (← Console.runRaw text)
  | .statement text => return .ok (← Console.runStatement text)
  | .script path =>
    match (s.file path).toExcept with
    | .error reason => return .error (.script path reason)
    | .ok text => return .ok (← Console.runScript text)
  | .lines greeting =>
    if greeting then (← get).banner.forM Console.display
    Console.runTyped (typedLines input)
    Console.display farewell
    return .ok true

/-- Runs the program on the nodes of a cluster. -/
def runOn {σ κ : Type} [Server σ κ] (server : σ) (c : Config) (o : Options) (p : Profile)
    (s : Surroundings) (input : String) : Outcome :=
  match openConsole server c o p s.now with
  | .error f => .ofFailure f []
  | .ok console =>
    match ((Task.ofOptions o).perform s input).run console with
    | (.error f, console) => .ofFailure f console.shown
    | (.ok ok, console) => ⟨if ok then 0 else 1, console.shown⟩

/-- Runs the program: on a simulated cluster if that is asked for, else on the nodes of the profile,
which `network` stands for. -/
def run {σ κ : Type} [Server σ κ] (network : σ) (o : Options) (s : Surroundings) (input : String) :
    Outcome :=
  match s.profile o with
  | .error f => .ofFailure f []
  | .ok p =>
    if o.memory then runOn Simulation.new Simulation.new.config o p s input
    else
      match p.cluster with
      | .error f => .ofFailure (.engine f.toError) []
      | .ok c => runOn network c o p s input

end SlotSql.CommandLine
