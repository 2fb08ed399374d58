import SlotSql.Number.Double
import SlotSql.Text.Quoted
/-!
# Interchange formats

Results can be written as comma-separated values and as JSON, to be read by other programs.

A record of comma-separated values is a line of fields with commas between them. A field that holds a comma, a quote or
a line end stands between quotes, and each quote in it is written twice.

A JSON document is written with one item or member a line, each level two blanks further to the right.
-/
namespace SlotSql

/-! ## Comma-separated values -/

namespace Csv

/-- The character around fields. -/
def quote : Char := '\x22'

/-- Whether a field that holds the character has to be quoted. -/
def isSpecial (c : Char) : Bool := c == ',' || c == quote || c == '\n' || c == '\r'

/-- A text in which every quote is written twice. -/
def doubled : List Char → List Char
  | [] => []
  | c :: cs => if c = quote then quote :: quote :: doubled cs else c :: doubled cs

/-- A field. -/
def field (s : String) : String :=
  if s.toList.any isSpecial then String.ofList ([quote] ++ doubled s.toList ++ [quote]) else s

/-- A record, without the line end. -/
def record (fields : List String) : String := ",".intercalate (fields.map field)

end Csv

/-! ## JSON -/

/-- A JSON document. -/
inductive JsonValue where
  | null
  | integer (n : Int)
  | double (x : Float)
  | text (s : String)
  | array (items : List JsonValue)
  | object (members : List (String × JsonValue))

namespace JsonValue

/-- A character inside a text: quotes, backslashes and controls are escaped. -/
def escaped (c : Char) : List Char :=
  if c = '\x22' then ['\\', '\x22']
  else if c = '\\' then ['\\', '\\']
  else if c = '\n' then ['\\', 'n']
  else if c = '\r' then ['\\', 'r']
  else if c = '\t' then ['\\', 't']
  else if c.toNat = 0x8 then ['\\', 'b']
  else if c.toNat = 0xC then ['\\', 'f']
  else if c.toNat < 0x20 then
    ['\\', 'u', '0', '0', Nat.digitChar (c.toNat / 16), Nat.digitChar (c.toNat % 16)]
  else [c]

/-- A text between quotes. -/
def quoted (s : String) : String :=
  String.ofList (['\x22'] ++ s.toList.flatMap escaped ++ ['\x22'])

/-- A double, if it is a number; JSON has no other doubles. -/
def doubleText (x : Float) : String := if Number.isFinite x then Number.jsonText x else "null"

/-- A line end and the blanks in front of a line at a level. -/
def lineBreak (level : Nat) : String := "\n" ++ String.ofList (List.replicate (2 * level) ' ')

/-- Parts between brackets, a line each; nothing stands between the brackets if there are none. -/
def bracketed (start stop : String) (level : Nat) (parts : List String) : String :=
  if parts.isEmpty then start ++ stop
  else
    start ++ lineBreak (level + 1) ++ ("," ++ lineBreak (level + 1)).intercalate parts ++
      lineBreak level ++ stop

mutual

/-- A document whose first line is at a level. -/
def render (level : Nat) : JsonValue → String
  | null => "null"
  | integer n => toString n
  | double x => doubleText x
  | text s => quoted s
  | array items => bracketed "[" "]" level (renderItems (level + 1) items)
  | object members => bracketed "\x7b" "\x7d" level (renderMembers (level + 1) members)

/-- The items of an array. -/
def renderItems (level : Nat) : List JsonValue → List String
  | [] => []
  | v :: vs => render level v :: renderItems level vs

/-- The members of an object. -/
def renderMembers (level : Nat) : List (String × JsonValue) → List String
  | [] => []
  | (k, v) :: ms => (quoted k ++ ": " ++ render level v) :: renderMembers level ms

end

end JsonValue
end SlotSql
