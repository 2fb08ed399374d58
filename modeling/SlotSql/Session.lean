import SlotSql.Cluster.Context
import SlotSql.Engine.Catalog
import SlotSql.Engine.Upsertion
import SlotSql.Statement.Parser
import SlotSql.Statement.RawCommand
/-!
# Sessions

A session reads statements and carries them out on a cluster. It holds the settings, the connections
to the cluster, and what statements change of the session itself.
-/
namespace SlotSql

open Cluster

/-- What came of a statement. -/
inductive StatementResult where
  | rows (r : Rows)
  /-- How many rows were changed, and how. -/
  | affected (verb : String) (count : Nat)
  /-- The row existed and was left alone. -/
  | ignored
  /-- What was done, in words. -/
  | done (text : String)
  /-- The answer of the store to a command. -/
  | reply (r : Reply)

/-- What came of a statement, and the notes on its plan, if they are wanted. -/
structure Executed where
  result : StatementResult
  notes : List String := []

/-- A session. -/
structure Session (σ κ : Type) where
  settings : Settings
  context : Context σ κ
  /-- Whether results carry notes. -/
  verbose : Bool := false
  /-- The character that ends a statement. -/
  delimiter : Char := ';'

/-- A step of a session; its state is kept when the step fails. -/
abbrev SessionStep (σ κ α : Type) := ExceptT EngineError (StateM (Session σ κ)) α

namespace Session

variable {σ κ : Type}

/-- A session over a context, with settings that keep every condition. -/
def new (settings : Settings) (context : Context σ κ) : Except EngineError (Session σ κ) := do
  settings.validate
  return { settings, context := { context with maxArgs := settings.maxArgs } }

/-- A value or an error of the engine as a step. -/
def ofExcept {α : Type} (x : Except EngineError α) : SessionStep σ κ α := ExceptT.mk (pure x)

variable [Server σ κ]

/-- Runs a step of the context of a session. -/
def onContext {α : Type} (act : StateM (Context σ κ) α) : StateM (Session σ κ) α := do
  let s ← get
  let (a, context) := act.run s.context
  set { s with context }
  return a

/-- Carries out a step of the context. -/
def step {α : Type} (act : Step σ κ α) : SessionStep σ κ α :=
  ExceptT.mk do
    match ← onContext act.run with
    | .ok a => return .ok a
    | .error e => return .error e.toEngine

/-- Carries out work of the engine. -/
def work {α : Type} (x : Engine α) : SessionStep σ κ α := ExceptT.mk (onContext (Context.perform x.run))

/-- What carrying out plans depends on at the time `now`. -/
def env (s : Session σ κ) (now : Int) : ScanEnv :=
  { settings := s.settings, masters := s.context.topology.masters
    patience := Server.patience s.context.server, now }

/-- Carries out steps of a scan; the result comes with the state of the scan. -/
def scanning {α : Type} (x : Scan) (act : Scanning α) : SessionStep σ κ (α × Scan) :=
  ExceptT.mk do
    let (result, x) ← onContext (Context.perform (act.run.run x))
    return result.map fun a => (a, x)

/-- The table of a name. -/
def table (name : TableName) : SessionStep σ κ Table := do work (Catalog.describe (← get).settings name)

/-- What came of a statement with a plan. -/
def planned (p : Plan) (x : Scan) (result : StatementResult) : SessionStep σ κ Executed := do
  return { result, notes := if (← get).verbose then p.notes x.progress else [] }

/-- A query on a table. -/
def select (now : Int) (q : Query) : SessionStep σ κ Executed := do
  let t ← table q.table
  let s ← get
  match Plan.ofQuery s.settings t q with
  | .error e => throw e.toEngine
  | .ok p =>
    let v := s.env now
    let start : Scan := ⟨{}, p.emptyRows⟩
    if p.countOnly then
      let (rows, x) ← scanning start (v.count p)
      planned p x (.rows rows)
    else
      let limit := s.settings.clampLimit q.selection.limit
      let (_, x) ← scanning start (v.next p (q.selection.offset.getD 0) limit)
      planned p x (.rows x.rows)

/-- The call that an item of a query on the pseudo table is. -/
def callOf : SelectItem → Except EngineError Call
  | .call c => .ok c
  | _ => .error (.plan "dual only supports functions")

/-- The row of a query on the pseudo table. -/
def dualRows (now : Int) (q : Query) : Except EngineError Rows := do
  let calls ← q.items.mapM callOf
  let rows : Rows := ⟨dualTable, calls.map fun c => ⟨c.text, false⟩, []⟩
  let cells ← calls.mapM fun c => return (← c.evaluate now none).map Cell.text
  rows.add dualTable cells

/-- A deletion of rows. -/
def delete (now : Int) (d : Deletion) : SessionStep σ κ Executed := do
  let t ← table d.table
  let s ← get
  match Plan.ofConditions s.settings t d.selection.conditions with
  | .error e => throw e.toEngine
  | .ok p =>
    let (count, x) ← scanning ⟨{}, p.emptyRows⟩
      ((s.env now).delete p (d.selection.offset.getD 0) d.selection.limit)
    planned p x (.affected "deleted" count)

/-- A statement that writes rows. -/
def upsert (now : Int) (u : Upsertion) : SessionStep σ κ Executed := do
  let t ← table u.table
  let s ← get
  let prepared ← ofExcept (u.prepare t now)
  let notes := if s.verbose then
      ["target: " ++ prepared.key.getD prepared.pattern,
        "values: " ++ toString prepared.values.length]
    else []
  match ← work (Upsertion.execute (s.env now) prepared) with
  | .written n => return ⟨.affected "upserted" n, notes⟩
  | .updated n => return ⟨.affected "updated" n, notes⟩
  | .ignored => return ⟨.ignored, notes⟩

/-- A definition of a table. -/
def create (now : Int) (d : TableDef) : SessionStep σ κ Executed := do
  let t ← ofExcept (d.toTable now)
  work (Catalog.create (← get).settings t d.ifNotExists)
  return { result := .done ("table " ++ t.fullName ++ " created") }

/-- The columns of a table, a row each. -/
def columnRows (t : Table) : Except EngineError Rows :=
  let columns : List Header := [⟨"name", true⟩, ⟨"type", false⟩, ⟨"length", false⟩, ⟨"scale", false⟩,
    ⟨"rowkey", false⟩, ⟨"nullable", false⟩, ⟨"comment", false⟩]
  t.fields.foldlM (fun (r : Rows) f => r.add f.name
    ([.text f.name, .text f.type.name, .integer f.length, .integer f.scale, .integer f.ordinal,
      .text (if f.nullable then "YES" else "NO"), .text f.comment] |>.map some)) ⟨"fields", columns, []⟩

/-- The text of a number of seconds since 1970. -/
def stampText (seconds : Int) : String :=
  ((Calendar.Moment.ofSeconds? seconds).map Calendar.Moment.text).getD (toString seconds)

/-- The row that describes a table. -/
def tableRows (t : Table) : Except EngineError Rows := do
  let fields ← columnRows t
  let columns : List Header := [⟨"table", true⟩, ⟨"created", false⟩, ⟨"comment", false⟩, ⟨"fields", false⟩]
  RowsOf.add ⟨t.fullName, columns, []⟩ t.fullName
    [some (.text t.fullName), some (.text (stampText t.created)), some (.text t.comment),
      some (.nested fields)]

/-- The description of a table. -/
def describe (name : TableName) : SessionStep σ κ Executed := do
  let rows ← ofExcept (tableRows (← table name))
  return { result := .rows rows }

/-- Removes a table with its rows. -/
def drop (now : Int) (name : TableName) : SessionStep σ κ Executed := do
  let t ← table name
  let s ← get
  match Plan.ofConditions s.settings t [] with
  | .error e => throw e.toEngine
  | .ok p =>
    let (count, _) ← scanning ⟨{}, p.emptyRows⟩ ((s.env now).delete p 0 none)
    work (Catalog.drop s.settings name)
    let text := "table " ++ name.text ++ " dropped, " ++ toString count ++ " rows deleted"
    return { result := .done text }

/-- A list of names, a row each. -/
def nameRows (title column : String) (names : List String) : Except EngineError Rows :=
  names.foldlM (fun (r : Rows) n => r.add n [some (.text n)]) ⟨title, [⟨column, true⟩], []⟩

/-- The tablespaces. -/
def showDatabases : SessionStep σ κ Executed := do
  let v := (← get).env 0
  let names ← work (Catalog.databases v.settings v.patience v.masters)
  return { result := .rows (← ofExcept (nameRows "databases" "database" names)) }

/-- The tables of a tablespace. -/
def showTables (tablespace : String) : SessionStep σ κ Executed := do
  let v := (← get).env 0
  let names ← work (Catalog.tablesOf v.settings v.patience v.masters tablespace)
  return { result := .rows (← ofExcept (nameRows ("tables in " ++ tablespace) "table" names)) }

/-- The entries of a status, a row each; of entries with one name the first is shown. -/
def entryRows (addr : String) (i : Info) : Rows :=
  i.entries.foldl (fun (r : Rows) (k, v) => (r.add k [some (.text k), some (.text v)]).toOption.getD r)
    ⟨addr, [⟨"key", true⟩, ⟨"value", false⟩], []⟩

/-- The nodes of a status statement: one, or all. -/
def infoNodes (t : Topology) : Option Nat → Except EngineError (List Node)
  | none => .ok t.nodes
  | some i =>
    match t.nodes.find? fun n => n.index == i with
    | some n => .ok [n]
    | none => .error (.notFound ("node " ++ toString i))

/-- The status of nodes: one section or all. -/
def info (part : Option String) (node : Option Nat) : SessionStep σ κ Executed := do
  let nodes ← ofExcept (infoNodes (← get).context.topology node)
  let title := match part with
    | some name => "info " ++ name
    | none => "info"
  let start : Rows := ⟨title, [⟨"node", true⟩, ⟨"role", false⟩, ⟨"info", false⟩], []⟩
  let rows ← nodes.foldlM (fun (r : Rows) n => do
    let i ← step (Context.info n.index part)
    ofExcept (r.add n.addr
      [some (.text n.addr), some (.text n.role.name), some (.nested (entryRows n.addr i))])) start
  return { result := .rows rows }

/-- Carries out a statement at the time `now`. -/
def execute (now : Int) : Statement → SessionStep σ κ Executed
  | .select q =>
    if q.table.isDual then do return { result := .rows (← ofExcept (dualRows now q)) }
    else select now q
  | .delete d => delete now d
  | .upsert u => upsert now u
  | .create d => create now d
  | .describe t => describe t
  | .drop t => drop now t
  | .showDatabases => showDatabases
  | .showTables ts => showTables ts
  | .info part node => info part node
  | .verbose on => do
    modify fun s => { s with verbose := on }
    return { result := .done ("verbose " ++ if on then "on" else "off") }
  | .delimiter c => do
    modify fun s => { s with delimiter := c }
    return { result := .done ("delimiter is now '" ++ String.singleton c ++ "'") }
  | .command args => do return { result := .reply (← step (Context.exec (.ofTexts args))) }

/-- Reads a statement and carries it out. -/
def run (now : Int) (text : String) : SessionStep σ κ Executed := do
  match Parser.parse (← get).settings text with
  | .ok s => execute now s
  | .error e => throw e.toEngine

/-- Reads a command for the store and carries it out. -/
def runCommand (now : Int) (text : String) : SessionStep σ κ Executed := do
  match RawCommand.parse text with
  | .ok args => execute now (.command args)
  | .error e => throw e.toEngine

end Session
end SlotSql
