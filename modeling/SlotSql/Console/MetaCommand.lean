import SlotSql.Report.Format
import SlotSql.Text.Blank
import SlotSql.Text.Pieces
/-!
# Commands to the console

A line that begins with a backslash is a command to the console itself.
-/
namespace SlotSql

/-- The name of the program. -/
def programName : String := "kvsql"

/-- The version of the program. -/
def version : String := "0.1.0"

/-- A command to the console. -/
inductive MetaCommand where
  | quit
  | help
  | timing
  /-- Sets the output format. -/
  | format (name : Option String)
  /-- Sends a command to the store. -/
  | raw (text : Option String)
  | version
  | unknown (name : String)
  deriving DecidableEq, Repr

/-- What a command asks the console to do. -/
inductive MetaAction where
  | exit
  | message (text : String)
  | toggleTiming
  | setFormat (f : Format)
  | raw (text : String)
  deriving DecidableEq, Repr

namespace MetaCommand

/-- The command that a line gives: a name, and what follows the first blank behind it. -/
def parse (line : String) : MetaCommand :=
  let cs := Text.trim line.toList
  let cs := (Text.stripStart? ['\\'] cs).getD cs
  let name := Unicode.lower (String.ofList (cs.takeWhile fun c => !Text.isBlank c))
  let rest := Text.trim ((cs.dropWhile fun c => !Text.isBlank c).drop 1)
  let argument := if rest.isEmpty then none else some (String.ofList rest)
  match name with
  | "q" | "quit" | "exit" => quit
  | "?" | "h" | "help" => help
  | "timing" | "t" => timing
  | "format" | "f" => format argument
  | "cmd" => raw argument
  | "version" | "v" => version
  | name => unknown name

/-- The overview of the commands. -/
def helpLines : List String := [
  "kvsql CLI Commands",
  "==================",
  "",
  "General:",
  "  \\q, \\quit       Exit the CLI",
  "  \\?, \\help       Show this help",
  "  \\v, \\version    Show version information",
  "",
  "Display:",
  "  \\t, \\timing     Toggle timing display",
  "  \\f, \\format X   Set output format (table, json, csv, raw)",
  "",
  "Store:",
  "  \\cmd ARGS       Send a raw command, e.g. \\cmd HGETALL \x7bt::logs:1\x7d",
  "",
  "Statements end with the delimiter (default ';'). A line holding only '!'",
  "discards the statement being typed.",
  ""]

/-- The name and the version of the program. -/
def versionText : String := programName ++ " v" ++ SlotSql.version

/-- The names of all formats, with `sep` between them. -/
def formatNames (sep : String) : String := sep.intercalate (Format.all.map Format.name)

/-- What a command asks for. -/
def action : MetaCommand → MetaAction
  | quit => .exit
  | help => .message ("\n".intercalate helpLines)
  | timing => .toggleTiming
  | format none => .message ("Usage: \\format " ++ formatNames "|")
  | format (some name) =>
    match Format.ofName? name with
    | some f => .setFormat f
    | none => .message ("Unknown format '" ++ name ++ "'. Available: " ++ formatNames ", ")
  | raw none => .message "Usage: \\cmd <store command>"
  | raw (some text) => .raw text
  | version => .message versionText
  | unknown name => .message ("Unknown command '\\" ++ name ++ "'. Type \\? for help.")

end MetaCommand
end SlotSql
