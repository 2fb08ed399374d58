import SlotSql.Engine.Basic
import SlotSql.Plan.Basic
import SlotSql.Settings
import SlotSql.TimeFunction
/-!
# Carrying out plans

A plan with one key looks that key up. Any other plan scans the masters one after the other, page by
page, and looks at each key that a page holds, once. Progress and rows are kept when a step fails, so
that the same step can be tried again.

A key whose row cannot be read or compared is passed over; only if a connection fails, the scan stops.
-/
namespace SlotSql

open Cluster

/-- The changing part of a scan. -/
structure Scan where
  progress : Progress
  /-- The rows found. -/
  rows : Rows

/-- A step of a scan. What it has changed is kept when it fails. -/
abbrev Scanning (α : Type) := ExceptT EngineError (StateT Scan Dialogue) α

namespace Scanning

variable {α ε : Type}

/-- A dialogue as a step that changes nothing. -/
def ofEngine (x : Engine α) : Scanning α := ExceptT.mk (StateT.lift x.run)

/-- A step whose failure is its result. -/
def attempt (x : ExceptT ε (StateT Scan Dialogue) α) : Scanning (Except ε α) := ExceptT.lift x.run

/-- A step that has a result or fails with it. -/
def ofExcept (x : Except EngineError α) : Scanning α := ExceptT.mk (pure x)

end Scanning

/-- Why a row is not produced: the scan cannot go on, or only this row is affected. -/
inductive RowError where
  | fatal (e : EngineError)
  | skip (e : EngineError)

namespace RowError

/-- A failed command affects the row only, unless the connection failed. -/
def ofCluster (e : ClusterError) : RowError :=
  if e.isConnectionError then fatal e.toEngine else skip e.toEngine

/-- The error as one of the engine. -/
def toEngine : RowError → EngineError
  | fatal e | skip e => e

end RowError

/-- A dialogue about one row. -/
abbrev OnRow (α : Type) := ExceptT RowError Dialogue α

namespace OnRow

/-- A dialogue whose failures concern a row. -/
def ofAsking {α : Type} (x : Asking α) : OnRow α :=
  ExceptT.mk (x.run.bind fun
    | .ok a => .done (.ok a)
    | .error e => .done (.error (.ofCluster e)))

instance : MonadLift (ExceptT ClusterError Dialogue) (ExceptT RowError Dialogue) where
  monadLift := ofAsking

/-- A result whose failure affects the row only. -/
def ofExcept {α ε : Type} (toEngine : ε → EngineError) : Except ε α → OnRow α
  | .ok a => return a
  | .error e => throw (.skip (toEngine e))

end OnRow

/-- What was read of an attribute. -/
inductive Fetched where
  | missing
  | value (b : Bytes)
  | members (ms : List String)
  deriving DecidableEq, Repr

/-- The text of what was read. -/
def Fetched.text? : Fetched → Option String
  | missing => none
  | value b => some (Utf8.decodeLossy b)
  | members ms => some (",".intercalate ms)

/-- A row that is looked at: the parts of its key and its attributes. -/
structure Candidate where
  key : String
  parts : List String
  fetched : List Fetched

/-- The text of a value of a row. -/
def Candidate.text? (c : Candidate) : Source → Option String
  | .key i => c.parts[i]?
  | .fetch i => (c.fetched[i]?).bind Fetched.text?

namespace Cell

/-- The cell of a stored value of a type. Octets that are no text, and blobs, are shown as octets; a
text that is no number of a numeric type is shown as a text. -/
def ofStored (t : ValueType) (b : Bytes) : Cell :=
  if t = .blob then .binary b
  else
    match Utf8.decode? b with
    | none => .binary b
    | some s =>
      let number? :=
        if t.isInteger && !t.isHex then (Number.int64? s).map integer
        else if t.isFloat then (Number.double? s).map double
        else none
      number?.getD (.text s)

end Cell

namespace Scan

/-- What is read of each attribute: plain ones with one command, then each set with one. -/
def fetch (p : Plan) (key : String) : Asking (List Fetched) := do
  let plain := (p.fetches.filter fun f => !f.field.type.isSet).map fun f => f.field.name
  let values ← if plain.isEmpty then pure [] else Asking.hmget key plain
  let named := plain.zip values
  p.fetches.mapM fun f =>
    if f.field.type.isSet then do
      let members ← Asking.smembers (Key.set key f.field.name)
      return if members.isEmpty then .missing else .members members
    else
      return match (named.lookup f.field.name).bind id with
        | some v => .value v
        | none => .missing

/-- Whether the parts of a key pass the filters of a plan. -/
def keyAccepted (p : Plan) (parts : List String) : Except EvalError Bool :=
  Filter.allHold (fun (k, part) => Filter.chainAccepts k.chain k.field.type (some part))
    (p.keys.zip parts)

/-- Whether the attributes of a row pass the filters of a plan. -/
def attributesAccepted (p : Plan) (fetched : List Fetched) : Except EvalError Bool :=
  let passes : FetchFilter × Fetched → Except EvalError Bool
    | (f, .members ms) => Filter.chainAcceptsSet f.chain ms
    | (f, x) => Filter.chainAccepts f.chain f.field.type x.text?
  Filter.allHold passes (p.fetches.zip fetched)

/-- The row of a key, if the plan accepts it. -/
def candidate? (p : Plan) (key : String) : OnRow (Option Candidate) := do
  let some (_, _, parts) := Key.parseRow? key | return none
  if parts.length ≠ p.keys.length then return none
  if !(← OnRow.ofExcept EvalError.toEngine (keyAccepted p parts)) then return none
  let fetched ← fetch p key
  if !(← OnRow.ofExcept EvalError.toEngine (attributesAccepted p fetched)) then return none
  return some ⟨key, parts, fetched⟩

/-- The cell of a column of the result at the time `now`. -/
def cell (now : Int) (c : Candidate) : Output → Except EngineError (Option Cell)
  | .field f (.key i) => .ok ((c.parts[i]?).map fun s => Cell.ofStored f.type (Utf8.bytes s))
  | .field f (.fetch i) =>
    match c.fetched[i]? with
    | some (.value b) => .ok (some (Cell.ofStored f.type b))
    | some (.members ms) => .ok (some (.text (",".intercalate ms)))
    | _ => .ok none
  | .call call source => (call.evaluate now (source.bind c.text?)).map (·.map Cell.text)
  | .count => .ok none

/-- What a scan does with the rows that a plan accepts. -/
structure Aim where
  /-- The number of rows to pass over. -/
  offset : Nat := 0
  /-- The number of accepted rows at which the scan stops. -/
  target : Option Nat := none
  /-- Whether rows are collected and not only counted. -/
  collect : Bool := true

/-- Whether a scan has reached its aim. -/
def Aim.reached (a : Aim) (g : Progress) : Bool :=
  match a.target with
  | none => false
  | some n => n ≤ g.accepted

/-- The rows with the row of a candidate, if it is to be collected. -/
def collected (p : Plan) (now : Int) (a : Aim) (x : Scan) (c : Candidate) :
    Except RowError Rows :=
  if p.countOnly || x.progress.accepted < a.offset || !a.collect then .ok x.rows
  else
    match p.outputs.mapM (cell now c) with
    | .error e => .error (.skip e)
    | .ok cells =>
      match x.rows.add c.key cells with
      | .error e => .error (.fatal e)
      | .ok rows => .ok rows

/-- Looks at a key, and counts and collects its row if the plan accepts it. -/
def process (p : Plan) (now : Int) (a : Aim) (key : String) :
    ExceptT RowError (StateT Scan Dialogue) Unit := do
  match ← ExceptT.mk (StateT.lift (candidate? p key).run) with
  | none => return ()
  | some c =>
    let x ← get
    let rows ← ExceptT.mk (pure (collected p now a x c))
    set { x with rows, progress := { x.progress with accepted := x.progress.accepted + 1 } }

/-- Changes the cursor of a node. -/
def modifyCursor (i : Nat) (f : NodeCursor → NodeCursor) (x : Scan) : Scan :=
  { x with progress := { x.progress with cursors := x.progress.cursors.modify i f } }

/-- Takes a key off the keys of a node that are pending. -/
def take (i : Nat) (rest : List String) (key : String) (x : Scan) : Scan :=
  let x := x.modifyCursor i fun c => { c with pending := rest }
  if x.progress.seen.contains key then x
  else { x with progress := { x.progress with seen := key :: x.progress.seen } }

/-- Looks at the pending keys of a node until the aim is reached. A key that was looked at before is
passed over. -/
def consume (p : Plan) (now : Int) (a : Aim) (i : Nat) : List String → Scanning Unit
  | [] => return ()
  | key :: rest => do
    let x ← get
    if a.reached x.progress then return ()
    set (x.take i rest key)
    if !x.progress.seen.contains key then
      match ← Scanning.attempt (process p now a key) with
      | .error (.fatal e) => throw e
      | _ => pure ()
    consume p now a i rest

/-- Takes in a page of a node. -/
def addPage (i : Nat) (page : Asking.Page) : Scan → Scan :=
  modifyCursor i fun c =>
    { c with cursor := page.cursor, scanDone := page.cursor == 0, pending := c.pending ++ page.keys }

/-- Scans a node until the aim is reached or its keys are exhausted, looking at no more than
`patience` pages. -/
def visit (s : Settings) (p : Plan) (now : Int) (a : Aim) (i : Nat) : (patience : Nat) → Scanning Unit
  | 0 => return ()
  | n + 1 => do
    consume p now a i ((((← get).progress.cursors[i]?).map NodeCursor.pending).getD [])
    let g := (← get).progress
    if a.reached g then return ()
    match g.cursors[i]? with
    | none => return ()
    | some c =>
      if c.scanDone then return ()
      modify (addPage i
        (← Scanning.ofEngine (Asking.scan c.node c.cursor p.pattern s.scanBatch)))
      visit s p now a i n

/-- Begins a scan on the masters, unless it has begun. -/
def start (masters : List Nat) (x : Scan) : Scan :=
  if x.progress.started then x
  else
    { x with progress :=
        { x.progress with started := true, cursors := masters.map fun node => { node } } }

end Scan

/-- What carrying out plans depends on. -/
structure ScanEnv where
  settings : Settings
  /-- The masters, in the order in which scans visit them. -/
  masters : List Nat
  /-- A number of pages and rows that no scan of a node exceeds. -/
  patience : Nat
  /-- The time, in seconds since 1970. -/
  now : Int

namespace ScanEnv

/-- Scans the masters until the aim is reached or all of them are exhausted. -/
def scan (v : ScanEnv) (p : Plan) (a : Scan.Aim) : Scanning Unit := do
  modify (Scan.start v.masters)
  let count := (← get).progress.cursors.length
  (List.range count).forM fun i => Scan.visit v.settings p v.now a i v.patience

/-- Looks up the only key of a plan, unless that has been done. -/
def lookup (v : ScanEnv) (p : Plan) (a : Scan.Aim) : Scanning Unit := do
  let x ← get
  if x.progress.started then return ()
  set { x with progress := { x.progress with started := true } }
  match p.directKey with
  | none => return ()
  | some key =>
    if ← Scanning.ofEngine (Asking.existsKey key) then
      match ← Scanning.attempt (Scan.process p v.now a key) with
      | .error e => throw e.toEngine
      | .ok () => return ()

/-- Carries out a plan until the aim is reached. -/
def advance (v : ScanEnv) (p : Plan) (a : Scan.Aim) : Scanning Unit :=
  if p.directKey.isSome then v.lookup p a else v.scan p a

/-- Collects the next rows: those behind the first `offset` accepted ones, until there are
`offset + limit`. The result is the number of rows accepted in all, or none if no row was added. -/
def next (v : ScanEnv) (p : Plan) (offset limit : Nat) : Scanning (Option Nat) := do
  let before := (← get).rows.size
  v.advance p { offset, target := some (offset + limit) }
  let x ← get
  return if before < x.rows.size then some x.progress.accepted else none

/-- Carries out steps on rows of their own. -/
def onFreshRows {α : Type} (rows : Rows) (act : Scanning α) : Scanning (α × Rows) := do
  let kept := (← get).rows
  modify fun x => { x with rows }
  let result ← Scanning.attempt act
  let found := (← get).rows
  modify fun x => { x with rows := kept }
  return (← Scanning.ofExcept result, found)

/-- Counts the rows of a plan. -/
def count (v : ScanEnv) (p : Plan) : Scanning Rows := do
  let aim : Scan.Aim := { collect := p.directKey.isSome }
  let _ ← onFreshRows ⟨"", [], []⟩ (v.advance p aim)
  let total : Int := min (← get).progress.accepted (Number.signedMax 64)
  let rows := p.emptyRows
  let row := (RowOf.blank countColumn rows.width).set ((rows.column? countColumn).getD 0)
    (some (Cell.integer total))
  rows.insert row

/-- Deletes a row with its sets; the result is whether there was anything to delete. -/
def deleteRow (p : Plan) (key : String) : Engine Bool := do
  let removed ← Asking.del (key :: p.table.setFields.map fun f => Key.set key f.name)
  return 0 < removed

/-- Deletes rows of a list of keys; the result is how many there were. -/
def deleteRows (p : Plan) : List String → Engine Nat
  | [] => return 0
  | key :: keys => do
    let n := if ← deleteRow p key then 1 else 0
    return n + (← deleteRows p keys)

/-- Deletes the rows behind the first `skip` ones page by page, until `limit` rows are deleted on top
of the `deleted` ones or none is left, taking no more than `patience` pages. -/
def deletePages (v : ScanEnv) (p : Plan) (limit : Option Nat) :
    (patience skip deleted : Nat) → Scanning Nat
  | 0, _, deleted => return deleted
  | n + 1, skip, deleted => do
    if limit.any (· ≤ deleted) then return deleted
    let size := match limit with
      | some l => min (l - deleted) v.settings.limitMax
      | none => v.settings.limitMax
    let (progress, page) ← onFreshRows ⟨"", [], []⟩ (v.next p skip size)
    let deleted := deleted + (← Scanning.ofEngine (deleteRows p page.keys))
    match progress with
    | some accepted => deletePages v p limit n accepted deleted
    | none => return deleted

/-- Deletes rows with their sets; the result is how many there were. -/
def delete (v : ScanEnv) (p : Plan) (offset : Nat) (limit : Option Nat) : Scanning Nat :=
  v.deletePages p limit (v.patience + 1) offset 0

/-- The keys of all rows of a plan. -/
def matchingKeys (v : ScanEnv) (p : Plan) : Scanning (List String) := do
  let ((), page) ← onFreshRows ⟨"", [], []⟩ (v.advance p {})
  return page.keys

end ScanEnv
end SlotSql
