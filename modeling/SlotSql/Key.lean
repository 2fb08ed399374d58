import SlotSql.Text.Pieces
import SlotSql.Pattern.Glob
/-!
# Keys of the store

A table's rows, its sets and its catalog entry live under keys of these forms:

```text
catalog entry   {system::tablespace:table}
row             {tablespace::table:part1:part2:...}
set of a row    {tablespace::table:part1:...}$field
```

The braces mark the part of the key that decides its slot, so a row and its sets lie in one slot.
-/
namespace SlotSql.Key

/-- The opening brace of a key. -/
def openBrace : Char := '\x7b'
/-- The closing brace of a key. -/
def closeBrace : Char := '\x7d'

/-- Characters with a meaning in keys and key patterns; no part of a row key may hold one. -/
def structural : List Char := [':', openBrace, closeBrace, '*']

/-- Whether a text holds a character with a meaning in keys. -/
def holdsStructural (s : String) : Bool := s.toList.any structural.contains

theorem holdsStructural_eq_false_iff {s : String} :
    holdsStructural s = false ↔ ∀ c ∈ structural, c ∉ s.toList := by
  rw [holdsStructural, List.any_eq_false]
  constructor
  · exact fun h c hc hm => h c hm (List.contains_iff_mem.2 hc)
  · exact fun h c hm hc => h c (List.contains_iff_mem.1 hc) hm

/-- The text between braces. -/
def braced (s : String) : String := String.singleton openBrace ++ s ++ String.singleton closeBrace

/-- The key of a row, or a pattern for rows if the parts are patterns. -/
def row (tablespace table : String) (parts : List String) : String :=
  braced (tablespace ++ "::" ++ table ++ String.join (parts.map (":" ++ ·)))

/-- The pattern of all rows of a table with `n` key columns. -/
def allRows (tablespace table : String) (n : Nat) : String :=
  row tablespace table (List.replicate (max n 1) "*")

/-- The text between the braces of a key. -/
def inner? (key : String) : Option (List Char) :=
  (Text.stripStart? [openBrace] key.toList).bind (Text.stripEnd? [closeBrace])

/-- Tablespace, table and parts of a row key. -/
def parseRow? (key : String) : Option (String × String × List String) := do
  let cs ← inner? key
  let (tablespace, rest) ← Text.cut? [':', ':'] cs
  match Text.split ':' rest with
  | [] => none
  | table :: parts =>
    if tablespace.isEmpty ∨ table.isEmpty ∨ parts.isEmpty then none
    else some (String.ofList tablespace, String.ofList table, parts.map String.ofList)

/-- The key of a table's catalog entry. -/
def system (system tablespace table : String) : String :=
  braced (system ++ "::" ++ tablespace ++ ":" ++ table)

/-- The pattern of the catalog entries of one tablespace, or of all. -/
def systemPattern (system : String) (tablespace : Option String) : String :=
  match tablespace with
  | some ts => braced (system ++ "::" ++ ts ++ ":*")
  | none => braced (system ++ "::*")

/-- Tablespace and table of the key of a catalog entry. -/
def parseSystem? (system key : String) : Option (String × String) := do
  let cs ← inner? key
  let cs ← Text.stripStart? system.toList cs
  let cs ← Text.stripStart? [':', ':'] cs
  let (tablespace, table) ← Text.cut? [':'] cs
  if tablespace.isEmpty ∨ table.isEmpty ∨ table.contains ':' then none
  else some (String.ofList tablespace, String.ofList table)

/-- The key of a set of a row. -/
def set (row field : String) : String := row ++ "$" ++ field

end SlotSql.Key
