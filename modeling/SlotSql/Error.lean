/-!
# Errors of the engine

Every failure that a user sees has a kind, which is a stable short name, and a message.
-/
namespace SlotSql

/-- A failure of the engine. -/
inductive EngineError where
  | internal (message : String)
  | unsupported (feature : String)
  | config (message : String)
  | io (message : String)
  /-- A malformed statement: where the fragment starts, in characters, and what is wrong. -/
  | parse (offset : Nat) (fragment message : String)
  | schema (message : String)
  | alreadyExists (object : String)
  | notFound (object : String)
  | plan (message : String)
  | exec (message : String)
  | duplicate (key : String)
  | conflict (message : String)
  deriving DecidableEq, Repr

namespace EngineError

/-- The short name of the kind of an error. -/
def kind : EngineError → String
  | internal _ => "INTERNAL"
  | unsupported _ => "UNSUPPORTED"
  | config _ => "CONFIG_ERROR"
  | io _ => "IO_ERROR"
  | parse _ _ _ => "PARSE_ERROR"
  | schema _ => "SCHEMA_ERROR"
  | alreadyExists _ => "ALREADY_EXISTS"
  | notFound _ => "NOT_FOUND"
  | plan _ => "PLAN_ERROR"
  | exec _ => "EXEC_ERROR"
  | duplicate _ => "DUPLICATE"
  | conflict _ => "CONFLICT"

/-- The number of the kind of an error; its high octet is the category. -/
def code : EngineError → Nat
  | internal _ => 0x0001
  | unsupported _ => 0x0002
  | config _ => 0x0003
  | io _ => 0x0004
  | parse _ _ _ => 0x0100
  | schema _ => 0x0200
  | alreadyExists _ => 0x0201
  | notFound _ => 0x0202
  | plan _ => 0x0300
  | exec _ => 0x0400
  | duplicate _ => 0x0500
  | conflict _ => 0x0501

/-- The name of the category of an error. -/
def category (e : EngineError) : String :=
  match e.code / 256 with
  | 0 => "General"
  | 1 => "Statement"
  | 2 => "Schema"
  | 3 => "Plan"
  | 4 => "Execution"
  | 5 => "Conflict"
  | _ => "Unknown"

/-- What went wrong. -/
def message : EngineError → String
  | internal m => "internal error: " ++ m
  | unsupported f => "not supported: " ++ f
  | config m => "invalid configuration: " ++ m
  | io m => "I/O error: " ++ m
  | parse n f m => m ++ " at offset " ++ toString n ++ ": '" ++ f ++ "'"
  | schema m => "schema error: " ++ m
  | alreadyExists o => o ++ " already exists"
  | notFound o => o ++ " not found"
  | plan m => "plan error: " ++ m
  | exec m => "execution failed: " ++ m
  | duplicate k => "duplicate row key '" ++ k ++ "'"
  | conflict m => "conflict: " ++ m

/-- The kind and the message, as they are shown to a user. -/
def report (e : EngineError) : String := e.kind ++ ": " ++ e.message

/-- Whether the network or the store failed. -/
def isExec : EngineError → Bool
  | exec _ | io _ => true
  | _ => false

end EngineError
end SlotSql
