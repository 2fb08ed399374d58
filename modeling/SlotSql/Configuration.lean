import SlotSql.Cluster.Config
import SlotSql.Settings
import SlotSql.Toml.Parser
import SlotSql.Toml.Record
/-!
# Configuration files

The settings of an engine and the nodes of a cluster can be read from files. What a file leaves out
keeps its usual value.

A profile holds what a user can set for the program once and for all: the nodes, the output, the
history of typed lines, and the settings of the engine.
-/
namespace SlotSql

open Toml (Form Member Value)

/-- A count in a file. -/
def Toml.Form.count : Form Nat := .natural Number.max64

namespace Settings

/-- The members of settings. -/
def members : List (Member Settings) := [
  .plain "system_prefix" .text systemPrefix fun v s => { s with systemPrefix := v },
  .plain "scan_batch" .count scanBatch fun v s => { s with scanBatch := v },
  .plain "limit_min" .count limitMin fun v s => { s with limitMin := v },
  .plain "limit_max" .count limitMax fun v s => { s with limitMax := v },
  .plain "max_args" .count maxArgs fun v s => { s with maxArgs := v },
  .plain "max_fields" .count maxFields fun v s => { s with maxFields := v },
  .plain "max_name_len" .count maxNameLen fun v s => { s with maxNameLen := v },
  .plain "max_comment_len" .count maxCommentLen fun v s => { s with maxCommentLen := v }]

/-- The settings that a value holds. -/
def ofValue? (v : Value) : Option Settings := v.toRecord? members {}

/-- The settings that a file holds. -/
def ofToml? (text : String) : Option Settings := (Toml.read? text).bind ofValue?

end Settings

namespace Cluster

/-- The members of a node. -/
def NodeConfig.members : List (Member NodeConfig) := [
  .plain "host" .text host fun v n => { n with host := v },
  .plain "port" (.natural Number.max16) port fun v n => { n with port := v },
  .optional "password" .text password fun v n => { n with password := v },
  .plain "connect_timeout_ms" .count connectMs fun v n => { n with connectMs := v },
  .plain "socket_timeout_ms" .count socketMs fun v n => { n with socketMs := v }]

/-- The node that a value holds. -/
def NodeConfig.ofValue? (v : Value) : Option NodeConfig := v.toRecord? NodeConfig.members {}

namespace Config

/-- The nodes that a value holds. -/
def nodesOfValue? (v : Value) : Option (List NodeConfig) := do
  (← v.toList?).mapM NodeConfig.ofValue?

/-- The members of the configuration of a cluster. -/
def members : List (Member Config) := [
  .unwritten "nodes" nodesOfValue? fun v c => { c with nodes := v },
  .optional "password" .text password fun v c => { c with password := v },
  .plain "tls" .boolean tls fun v c => { c with tls := v }]

/-- The configuration that a file holds, if it keeps every condition. -/
def ofToml (text : String) : Except ConfigFault Config :=
  match (Toml.read? text).bind (·.toRecord? members {}) with
  | none => .error .malformed
  | some c => c.validated

end Config
end Cluster

/-! ## Profiles -/

/-- The settings of a user. -/
structure Profile where
  /-- The addresses of the nodes, with commas between them. -/
  nodes : String := "127.0.0.1:7000"
  /-- The password for the nodes; it is never written to a file. -/
  password : Option String := none
  /-- The name of the output format. -/
  outputFormat : String := "table"
  /-- Whether the time that a statement takes is shown. -/
  timing : Bool := false
  /-- The file of the lines typed before. -/
  historyFile : Option String := none
  /-- The number of typed lines that are remembered. -/
  historySize : Nat := 1000
  engine : Settings := {}
  deriving DecidableEq, Repr

namespace Profile

/-- The members of a profile. -/
def members : List (Member Profile) := [
  .plain "nodes" .text nodes fun v p => { p with nodes := v },
  .unwritten "password" Form.text.read? fun v p => { p with password := some v },
  .plain "output_format" .text outputFormat fun v p => { p with outputFormat := v },
  .plain "timing" .boolean timing fun v p => { p with timing := v },
  .optional "history_file" .text historyFile fun v p => { p with historyFile := v },
  .plain "history_size" .count historySize fun v p => { p with historySize := v },
  .unwritten "engine" Settings.ofValue? fun v p => { p with engine := v }]

/-- The profile that a file holds. -/
def ofToml? (text : String) : Option Profile := (Toml.read? text).bind (·.toRecord? members {})

/-- The profile as a file; the settings of the engine have a section of their own. -/
def toToml (p : Profile) : String :=
  Toml.linesOf members p ++ "\n[engine]\n" ++ Toml.linesOf Settings.members p.engine

/-- The cluster of the nodes. -/
def cluster (p : Profile) : Except Cluster.ConfigFault Cluster.Config :=
  (Cluster.Config.ofList p.nodes).map fun c => { c with password := p.password }

end Profile
end SlotSql
