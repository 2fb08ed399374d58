import SlotSql.Text.Unicode.DisplayTable
/-!
# Quoted texts

A text between double quotes in which quotes, backslashes and everything that would not be seen
are written as escapes.
-/
namespace SlotSql.Text

/-- The hexadecimal digits of a number, in lower case and without leading zeros. -/
def hexText (n : Nat) : String := String.ofList (Nat.toDigits 16 n)

/-- The characters of the escape `\u\x7b…\x7d` of a code point. -/
def codeEscape (n : Nat) : List Char :=
  ['\\', 'u', '\x7b'] ++ (hexText n).toList ++ ['\x7d']

/-- One character inside a quoted text. -/
def quoteChar (hidden : Unicode.Ranges) (c : Char) : List Char :=
  if c = '\x22' then ['\\', '\x22']
  else if c = '\\' then ['\\', '\\']
  else if c = '\t' then ['\\', 't']
  else if c = '\n' then ['\\', 'n']
  else if c = '\r' then ['\\', 'r']
  else if c.toNat = 0 then ['\\', '0']
  else if 0x20 ≤ c.toNat ∧ c.toNat < 0x7F then [c]
  else if hidden.contains c.toNat then codeEscape c.toNat
  else [c]

/-- The text between double quotes, with escapes. -/
def quoted (s : String) : String :=
  let hidden := Unicode.Ranges.ofLines Unicode.hiddenRanges
  String.ofList (['\x22'] ++ s.toList.flatMap (quoteChar hidden) ++ ['\x22'])

end SlotSql.Text
