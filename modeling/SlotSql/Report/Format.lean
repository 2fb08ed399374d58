import SlotSql.Text.Case
/-!
# Output formats

The formats in which results are written, and their names.
-/
namespace SlotSql

/-- An output format. -/
inductive Format where
  /-- A grid of cells. -/
  | table
  | json
  | csv
  /-- Values with tabs between them. -/
  | raw
  deriving DecidableEq, Repr

namespace Format

/-- All formats. -/
def all : List Format := [table, json, csv, raw]

/-- The name of a format in settings and options. -/
def name : Format → String
  | table => "table" | json => "json" | csv => "csv" | raw => "raw"

/-- The name of a format in messages. -/
def title : Format → String
  | table => "Table" | json => "Json" | csv => "Csv" | raw => "Raw"

/-- The format of a name, in which the case of ASCII letters does not matter. -/
def ofName? (s : String) : Option Format := all.find? fun f => f.name == Text.asciiLower s

end Format
end SlotSql
