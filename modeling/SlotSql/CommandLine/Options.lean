import SlotSql.Console.MetaCommand
import SlotSql.Report.Format
import SlotSql.Text.Pieces
/-!
# Options

The words of a command line. A switch has a long name behind two dashes and perhaps a letter behind
one; letters can share a dash. Its value, if it takes one, stands behind it, or behind an equals
sign in the same word, or right behind the letter. No other words are allowed, and no switch twice.

Results:
* `mem_all`: the list of switches is complete.
-/
namespace SlotSql.CommandLine

/-- A switch. -/
inductive Switch where
  | nodes
  | password
  | command
  | statement
  | file
  | output
  | verbose
  | quiet
  | config
  | memory
  | help
  | version
  deriving DecidableEq, Repr

namespace Switch

/-- All switches. -/
def all : List Switch :=
  [nodes, password, command, statement, file, output, verbose, quiet, config, memory, help, version]

theorem mem_all (s : Switch) : s ∈ all := by cases s <;> decide

/-- The long name. -/
def name : Switch → String
  | nodes => "nodes"
  | password => "password"
  | command => "command"
  | statement => "statement"
  | file => "file"
  | output => "output"
  | verbose => "verbose"
  | quiet => "quiet"
  | config => "config"
  | memory => "memory"
  | help => "help"
  | version => "version"

/-- The letter. -/
def letter? : Switch → Option Char
  | nodes => some 'n'
  | password => some 'a'
  | command => some 'c'
  | statement => some 's'
  | file => some 'f'
  | output => some 'o'
  | verbose => some 'v'
  | quiet => some 'q'
  | config | memory => none
  | help => some 'h'
  | version => some 'V'

/-- Whether the switch takes a value. -/
def takesValue : Switch → Bool
  | nodes | password | command | statement | file | output | config => true
  | verbose | quiet | memory | help | version => false

/-- Whether nothing behind the switch is read. -/
def isLast : Switch → Bool
  | help | version => true
  | _ => false

/-- The switch of a long name. -/
def ofName? (s : String) : Option Switch := all.find? fun x => x.name == s

/-- The switch of a letter. -/
def ofLetter? (c : Char) : Option Switch := all.find? fun x => x.letter? == some c

/-- What the switch does. -/
def description : Switch → String
  | nodes => "Cluster nodes as host:port, comma separated"
  | password => "Password sent when a node answers NOAUTH"
  | command => "Send a single raw store command and exit"
  | statement => "Execute a single statement and exit"
  | file => "Execute statements from file and exit"
  | output => "Output format: table, json, csv or raw"
  | verbose => "Enable debug logging"
  | quiet => "Suppress the banner"
  | config => "Configuration file path"
  | memory => "Use an in-process cluster (no network)"
  | help => "Print help"
  | version => "Print version"

end Switch

/-- A switch on a command line, with its value if it takes one. -/
structure Given where
  switch : Switch
  value : String := ""
  deriving DecidableEq, Repr

namespace Given

/-- Switches, behind which a switch may wait for its value in the next word. -/
structure Word where
  given : List Given
  waiting : Option Switch := none

/-- The switches of letters that share a dash. -/
def ofLetters? : List Char → Option Word
  | [] => some ⟨[], none⟩
  | c :: cs => do
    let s ← Switch.ofLetter? c
    if s.takesValue then
      match cs with
      | [] => return ⟨[], some s⟩
      | '=' :: value => return ⟨[⟨s, String.ofList value⟩], none⟩
      | value => return ⟨[⟨s, String.ofList value⟩], none⟩
    else if s.isLast then return ⟨[⟨s, ""⟩], none⟩
    else
      let w ← ofLetters? cs
      return { w with given := ⟨s, ""⟩ :: w.given }

/-- The switch of a long name, which may have a value behind an equals sign. -/
def ofLong? (cs : List Char) : Option Word :=
  match Text.cut? ['='] cs with
  | some (name, value) => do
    let s ← Switch.ofName? (String.ofList name)
    if s.takesValue then return ⟨[⟨s, String.ofList value⟩], none⟩ else none
  | none => do
    let s ← Switch.ofName? (String.ofList cs)
    return if s.takesValue then ⟨[], some s⟩ else ⟨[⟨s, ""⟩], none⟩

/-- The switches of a word. -/
def ofWord? (word : String) : Option Word :=
  match word.toList with
  | '-' :: '-' :: cs => ofLong? cs
  | ['-'] => none
  | '-' :: cs => ofLetters? cs
  | _ => none

/-- Whether a word can be the value of the switch in front of it. -/
def isValue (word : String) : Bool :=
  match word.toList with
  | '-' :: _ :: _ => false
  | _ => true

/-- The switches of a command line, up to one that is the last to be read. Two dashes can stand at
the end. -/
def ofWords? : List String → Option (List Given)
  | [] => some []
  | ["--"] => some []
  | word :: words => do
    let w ← ofWord? word
    if w.given.any fun g => g.switch.isLast then return w.given
    match w.waiting, words with
    | none, words => return w.given ++ (← ofWords? words)
    | some s, value :: words =>
      if isValue value then return w.given ++ ⟨s, value⟩ :: (← ofWords? words) else none
    | some _, [] => none

end Given

/-- What a command line asks for. -/
structure Options where
  nodes : Option String := none
  password : Option String := none
  command : Option String := none
  statement : Option String := none
  file : Option String := none
  output : Option Format := none
  verbose : Bool := false
  quiet : Bool := false
  config : Option String := none
  /-- Whether to use a simulated cluster. -/
  memory : Bool := false
  deriving DecidableEq, Repr

namespace Options

/-- Takes in a switch, unless its value is not allowed. -/
def put? (o : Options) (g : Given) : Option Options :=
  match g.switch with
  | .nodes => some { o with nodes := g.value }
  | .password => some { o with password := g.value }
  | .command => some { o with command := g.value }
  | .statement => some { o with statement := g.value }
  | .file => if g.value.isEmpty then none else some { o with file := g.value }
  | .output => (Format.all.find? fun f => f.name == g.value).map fun f => { o with output := f }
  | .verbose => some { o with verbose := true }
  | .quiet => some { o with quiet := true }
  | .config => if g.value.isEmpty then none else some { o with config := g.value }
  | .memory => some { o with memory := true }
  | .help | .version => some o

/-- The options of switches, unless one is given twice. -/
def ofGiven? (gs : List Given) : Option Options :=
  if (gs.map Given.switch).Nodup then gs.foldlM put? {} else none

/-- Whether at most one thing is asked to be carried out. -/
def isSingle (o : Options) : Bool :=
  (([o.command, o.statement, o.file].filter Option.isSome).length) ≤ 1

end Options

/-- What a command line asks for: to say something about the program, or to run it. -/
inductive Request where
  | help
  | version
  | run (o : Options)
  /-- The command line is not well-formed. -/
  | refused
  deriving DecidableEq, Repr

/-- The line that tells the version. -/
def versionLine : String := programName ++ " " ++ SlotSql.version ++ "\n"

/-- How the program is called. -/
def usageLine : String := "Usage: " ++ programName ++ " [OPTIONS]\n"

/-- The line that describes a switch. -/
def Switch.line (s : Switch) : String :=
  let letter := match s.letter? with
    | some c => "-" ++ String.singleton c ++ ", "
    | none => "    "
  let names := "  " ++ letter ++ "--" ++ s.name ++ (if s.takesValue then " <VALUE>" else "")
  names ++ String.ofList (List.replicate (29 - names.length) ' ') ++ s.description ++ "\n"

/-- The overview of the program. -/
def helpText : String :=
  "SQL-dialect shell for Redis-Cluster compatible stores\n\n" ++ usageLine ++ "\nOptions:\n" ++
    String.join (Switch.all.map Switch.line)

/-- What is said of a command line that is not well-formed. -/
def refusalText : String := "error: the arguments are not well-formed\n\n" ++ usageLine

namespace Request

/-- What the words of a command line ask for. -/
def ofWords (words : List String) : Request :=
  match Given.ofWords? words with
  | none => refused
  | some gs =>
    match Options.ofGiven? gs with
    | none => refused
    | some o =>
      match gs.getLast?.map Given.switch with
      | some .help => help
      | some .version => version
      | _ => if o.isSingle then run o else refused

end Request
end SlotSql.CommandLine
