import SlotSql.Console.MetaCommand
import SlotSql.Console.Script
import SlotSql.Report.Basic
/-!
# The console

The console takes lines, carries out the statements in them and shows what comes of each. A script
is carried out up to its first failing statement; typed lines go on behind a failure.
-/
namespace SlotSql

open Cluster

/-- A line that is shown. -/
inductive Shown where
  | output (text : String)
  | error (text : String)
  /-- The time that the statement in front of it took. -/
  | elapsed
  deriving DecidableEq, Repr

namespace Shown

/-- A time in milliseconds with three digits behind the point. -/
def timeText (micros : Nat) : String :=
  let digits := Nat.toDigits 10 (micros % 1000)
  "Time: " ++ toString (micros / 1000) ++ "." ++
    String.ofList (List.replicate (3 - digits.length) '0' ++ digits) ++ "ms"

/-- What a line adds to the output of a program when statements take so many microseconds. -/
def outputText (micros : Nat) : Shown → String
  | output text => text ++ "\n"
  | elapsed => timeText micros ++ "\n"
  | error _ => ""

/-- What a line adds to the messages of a program. -/
def errorText : Shown → String
  | error text => text ++ "\n"
  | _ => ""

end Shown

/-- A console. -/
structure Console (σ κ : Type) where
  session : Session σ κ
  format : Format := .table
  /-- Whether the time that a statement takes is shown. -/
  timing : Bool := false
  /-- The time in seconds since 1970. -/
  now : Int
  pending : Script.Pending := {}
  /-- What has been shown, in order. -/
  shown : List Shown := []

namespace Console

variable {σ κ : Type}

/-- A step of a console. -/
abbrev ConsoleStep (σ κ α : Type) := StateM (Console σ κ) α

/-- Shows a line. -/
def display (x : Shown) : ConsoleStep σ κ Unit := modify fun c => { c with shown := c.shown ++ [x] }

/-- What came of a statement, as it is shown: notes, result and time. -/
def render (c : Console σ κ) (x : Executed) : List Shown :=
  .output ("\n".intercalate (x.notes.map ("-- " ++ ·) ++ [x.result.report c.format])) ::
    if c.timing then [.elapsed] else []

variable [Server σ κ]

/-- Carries out a step of the session and shows what came of it; the result is whether it
succeeded. -/
def perform (act : SessionStep σ κ Executed) : ConsoleStep σ κ Bool := do
  let c ← get
  let (result, session) := act.run c.session
  set { c with session }
  match result with
  | .ok x =>
    (c.render x).forM display
    return true
  | .error e =>
    display (.error e.report)
    return false

/-- Carries out a statement. -/
def runStatement (text : String) : ConsoleStep σ κ Bool := do perform (Session.run (← get).now text)

/-- Carries out a command for the store. -/
def runRaw (text : String) : ConsoleStep σ κ Bool := do
  perform (Session.runCommand (← get).now text)

/-- Carries out a command to the console; the result is whether the console is to be left. -/
def runCommand (line : String) : ConsoleStep σ κ Bool := do
  match (MetaCommand.parse line).action with
  | .exit => return true
  | .message text => display (.output text)
  | .toggleTiming =>
    modify fun c => { c with timing := !c.timing }
    display (.output ("Timing is " ++ (if (← get).timing then "on" else "off") ++ "."))
  | .setFormat f =>
    modify fun c => { c with format := f }
    display (.output ("Output format set to " ++ f.title ++ "."))
  | .raw text => let _ ← runRaw text
  return false

/-- Carries out a typed line; the result is whether the console is to be left. -/
def runLine (line : String) : ConsoleStep σ κ Bool := do
  let c ← get
  let (outcome, pending) := c.pending.feed c.session.delimiter line.toList
  set { c with pending }
  match outcome with
  | .incomplete => return false
  | .cancelled =>
    display (.output "Statement discarded.")
    return false
  | .command text => runCommand text
  | .complete statements =>
    statements.forM fun s => do let _ ← runStatement s
    return false

/-- Carries out statements up to the first that fails; the result is whether none does. -/
def runAll : List String → ConsoleStep σ κ Bool
  | [] => return true
  | s :: ss => do if ← runStatement s then runAll ss else return false

/-- Whether a line of a script is a comment. -/
def isComment (line : List Char) : Bool := (Text.trimStart line).head? == some '#'

/-- Carries out the lines of a script behind the text `pending`. -/
def runLines (pending : Script.Pending) : List (List Char) → ConsoleStep σ κ Bool
  | [] =>
    match pending.finish? with
    | some s => runStatement s
    | none => return true
  | line :: lines => do
    if isComment line then runLines pending lines
    else
      let (outcome, pending) := pending.feed (← get).session.delimiter line
      match outcome with
      | .incomplete | .cancelled => runLines pending lines
      | .command text => if ← runCommand text then return true else runLines pending lines
      | .complete statements => if ← runAll statements then runLines pending lines else return false

/-- Carries out a script; the result is whether every statement succeeded. A statement at the end
needs no delimiter. -/
def runScript (text : String) : ConsoleStep σ κ Bool := runLines {} (Text.lines text.toList)

/-- Carries out typed lines up to the one that leaves the console, or to the end of the input. -/
def runTyped : List String → ConsoleStep σ κ Unit
  | [] => display (.output "\\q")
  | line :: lines => do if ← runLine line then return else runTyped lines

/-- The nodes with their roles. -/
def nodesText (t : Topology) : String :=
  ", ".intercalate (t.nodes.map fun n => n.addr ++ " (" ++ n.role.name ++ ")")

/-- What the console shows when it is opened. -/
def banner (c : Console σ κ) : List Shown := [
  .output MetaCommand.versionText,
  .output ("Connected to " ++ nodesText c.session.context.topology),
  .output "Type \\? for help, \\q to quit.\n"]

end Console
end SlotSql
