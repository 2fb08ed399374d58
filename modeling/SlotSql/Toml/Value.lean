/-!
# TOML values

A document is a tree of values. How a table came about decides what may still be added to it, so
each table remembers it: a table with a header of its own is complete, one that only stands between
others can get a header later, one made by dotted keys can get more dotted keys, and one written in
a line is closed.

Results:
* `get?_put`: what a table holds after a change.
-/
namespace SlotSql.Toml

/-- What is said of a text that is no document, or of a value of a wrong type. -/
def malformedText : String := "TOML parse error"

/-- How a table came about. -/
inductive Origin where
  /-- It has a header, or is the document itself. -/
  | header
  /-- It stands in front of the last part of a header. -/
  | implicit
  /-- It stands in front of the last part of a key. -/
  | dotted
  /-- It is written as a value. -/
  | inline
  deriving DecidableEq, Repr

/-- A value. Of floats and dates only the kind is kept. -/
inductive Value where
  | text (s : String)
  | integer (n : Int)
  | float
  | boolean (b : Bool)
  | date
  /-- An array; headers can add tables to one that headers have made. -/
  | array (byHeaders : Bool) (items : List Value)
  | table (origin : Origin) (entries : List (String × Value))

/-- The entries of a table, in order. -/
abbrev Entries := List (String × Value)

namespace Entries

/-- The value under a key. -/
def get? (es : Entries) (k : String) : Option Value := es.lookup k

/-- Puts a value under a key, in the place of the old value if there is one. -/
def put (k : String) (v : Value) : Entries → Entries
  | [] => [(k, v)]
  | e :: es => if e.1 = k then (k, v) :: es else e :: put k v es

theorem get?_put (es : Entries) (k j : String) (v : Value) :
    get? (put k v es) j = if j = k then some v else get? es j := by
  have cons (e : String × Value) (es : Entries) :
      get? (e :: es) j = if j = e.1 then some e.2 else get? es j := by
    obtain ⟨k, v⟩ := e
    rw [get?, List.lookup_cons]
    by_cases h : j = k
    · simp [h]
    · have : (j == k) = false := by simpa using h
      simp [this, h, get?]
  induction es with
  | nil => rw [put, cons]
  | cons e es ih =>
    rw [put]
    split
    · next he => subst he; rw [cons, cons]; by_cases h : j = e.1 <;> simp [h]
    · next he =>
      rw [cons, cons, ih]
      by_cases h : j = e.1
      · have : ¬ j = k := by rw [h]; exact he
        simp [h]; intro hk; exact absurd hk he
      · simp [h]

/-- Changes the table at the end of a path, of which missing parts are made; the last table of an
array made by headers stands for the array. Dotted keys pass only through tables that can get more
of them. -/
def descend (dotted : Bool) : List String → (Origin × Entries → Option (Origin × Entries)) →
    Origin × Entries → Option (Origin × Entries)
  | [], f, t => f t
  | k :: ks, f, (origin, es) =>
    let within (t : Origin × Entries) : Option Value :=
      (descend dotted ks f t).map fun t => .table t.1 t.2
    let changed : Option Value :=
      match get? es k with
      | none => within (if dotted then .dotted else .implicit, [])
      | some (.table .inline _) => none
      | some (.table .header es) => if dotted then none else within (.header, es)
      | some (.table o es) => within (o, es)
      | some (.array true items) =>
        match items.getLast? with
        | some (.table o es) => (within (o, es)).map fun v => .array true (items.dropLast ++ [v])
        | _ => none
      | some _ => none
    changed.map fun v => (origin, put k v es)

/-- Puts a value under a dotted key, which must be new. -/
def define (t : Origin × Entries) (path : List String) (v : Value) : Option (Origin × Entries) :=
  match path.getLast? with
  | none => none
  | some k =>
    descend true path.dropLast (fun (origin, es) =>
      if (get? es k).isSome ∨ (1 < path.length ∧ origin ≠ .dotted) then none
      else some (origin, put k v es)) t

/-- Puts values under dotted keys. -/
def defineAll (t : Origin × Entries) (pairs : List (List String × Value)) :
    Option (Origin × Entries) :=
  pairs.foldlM (fun t (path, v) => define t path v) t

end Entries

/-- The header of a section of a document. -/
inductive SectionHeader where
  /-- The keys in front of all headers. -/
  | root
  | table (path : List String)
  /-- One more table of an array. -/
  | item (path : List String)
  deriving DecidableEq, Repr

/-- A header with the keys and values behind it. -/
structure Section where
  header : SectionHeader
  pairs : List (List String × Value) := []

namespace Section

/-- The table that a section makes of an old one. -/
def tableFrom (s : Section) (old : Entries) : Option Value :=
  (Entries.defineAll (.header, old) s.pairs).map fun t => .table .header t.2

/-- The value that a section with a table header puts in the place of an old one. -/
def replace (s : Section) : Option Value → Option Value
  | none => s.tableFrom []
  | some (.table .implicit old) => s.tableFrom old
  | some _ => none

/-- The array that a section adds its table to. -/
def append (s : Section) : Option Value → Option Value
  | none => (s.tableFrom []).map fun v => .array true [v]
  | some (.array true items) => (s.tableFrom []).map fun v => .array true (items ++ [v])
  | some _ => none

/-- Changes the value at the end of a header's path. -/
def atPath (path : List String) (change : Option Value → Option Value) (t : Origin × Entries) :
    Option (Origin × Entries) :=
  match path.getLast? with
  | none => none
  | some k =>
    Entries.descend false path.dropLast (fun (origin, es) =>
      (change (Entries.get? es k)).map fun v => (origin, Entries.put k v es)) t

/-- Adds a section to a document. -/
def addTo (t : Origin × Entries) (s : Section) : Option (Origin × Entries) :=
  match s.header with
  | .root => Entries.defineAll t s.pairs
  | .table path => atPath path s.replace t
  | .item path => atPath path s.append t

/-- The document that sections make up. -/
def assemble (ss : List Section) : Option Value :=
  (ss.foldlM addTo (.header, [])).map fun t => .table .header t.2

end Section
end SlotSql.Toml
