import SlotSql.Cluster.Error
import SlotSql.Text.Blank
import SlotSql.Text.Case
import SlotSql.Text.Utf8
/-!
# Store commands

A command is a list of words of octets, the name first. How many words it may have is a condition
that the sender checks.
-/
namespace SlotSql.Cluster

/-- A command: its name and its arguments. -/
structure Command where
  words : List Bytes
  deriving DecidableEq, Repr

namespace Command

/-- The command of the given texts. -/
def ofTexts (ws : List String) : Command := ⟨ws.map Utf8.bytes⟩

/-- The name in upper case. -/
def name (c : Command) : String := Text.asciiUpper (Utf8.decodeLossy (c.words.headD []))

/-- The number of words. -/
def length (c : Command) : Nat := c.words.length

/-- Accepts a command that has a name and no more than `max` words. -/
def validate (c : Command) (max : Nat) : Except ClusterError Unit :=
  if c.words.isEmpty then .error (.protocol "empty command")
  else if max < c.length then .error (.tooManyArgs c.name c.length max)
  else .ok ()

/-- Asks whether a node is there. -/
def ping : Command := ofTexts ["PING"]
/-- Sends a password. -/
def auth (password : String) : Command := ofTexts ["AUTH", password]
/-- Asks whether a key exists. -/
def existsKey (key : String) : Command := ofTexts ["EXISTS", key]
/-- Deletes keys. -/
def del (keys : List String) : Command := ofTexts ("DEL" :: keys)
/-- Reads fields of a hash. -/
def hmget (key : String) (fields : List String) : Command := ofTexts ("HMGET" :: key :: fields)
/-- Writes fields of a hash. -/
def hmset (key : String) (pairs : List (String × Bytes)) : Command :=
  ⟨[Utf8.bytes "HMSET", Utf8.bytes key] ++ pairs.flatMap fun (f, v) => [Utf8.bytes f, v]⟩
/-- Reads a hash. -/
def hgetall (key : String) : Command := ofTexts ["HGETALL", key]
/-- Asks for a page of keys. -/
def scan (cursor : Nat) (pattern : String) (count : Nat) : Command :=
  ofTexts ["SCAN", toString cursor, "MATCH", pattern, "COUNT", toString count]
/-- Adds members to a set. -/
def sadd (key : String) (members : List String) : Command := ofTexts ("SADD" :: key :: members)
/-- Removes members from a set. -/
def srem (key : String) (members : List String) : Command := ofTexts ("SREM" :: key :: members)
/-- Reads a set. -/
def smembers (key : String) : Command := ofTexts ["SMEMBERS", key]
/-- Asks for a section of a node's status. -/
def info (part : Option String) : Command := ofTexts ("INFO" :: part.toList)

/-- A word as it is shown: between quotes if it is empty or holds a blank. -/
def wordText (w : Bytes) : String :=
  let t := Utf8.decodeLossy w
  if t.isEmpty ∨ t.toList.any Text.isBlank then "\"" ++ t ++ "\"" else t

/-- What is shown in place of a password. -/
def mask : String := "******"

/-- The texts of the words; the first argument of an `AUTH` command is masked. -/
def texts (c : Command) : List String :=
  match c.words with
  | [] => []
  | [w] => [wordText w]
  | w :: p :: ws =>
    wordText w :: (if c.name = "AUTH" then mask else wordText p) :: ws.map wordText

/-- The command as it is shown. -/
def display (c : Command) : String := " ".intercalate c.texts

end Command
end SlotSql.Cluster
