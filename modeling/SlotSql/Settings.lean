import SlotSql.Error
import SlotSql.Key
/-!
# Engine settings

The limits that statements, tables and scans keep, and the conditions on them.
-/
namespace SlotSql

/-- The settings of an engine. -/
structure Settings where
  /-- The name of the system tablespace, which holds the catalog. -/
  systemPrefix : String := "kvsql.sys"
  /-- How many keys a page of a scan looks at. -/
  scanBatch : Nat := 200
  /-- The least number of rows that a limit can ask for, and the number without a limit. -/
  limitMin : Nat := 20
  /-- The greatest number of rows that a limit can ask for. -/
  limitMax : Nat := 10000
  /-- The greatest number of words of a store command. -/
  maxArgs : Nat := 252
  /-- The greatest number of columns of a table. -/
  maxFields : Nat := 200
  /-- The greatest number of octets of a name. -/
  maxNameLen : Nat := 30
  /-- The greatest number of octets of a comment. -/
  maxCommentLen : Nat := 255
  deriving DecidableEq, Repr

namespace Settings

/-- What can be wrong with settings. -/
inductive Fault where
  | emptyPrefix
  | structuralPrefix
  | noBatch
  | limits
  | fewArgs
  | noFields
  | noNames
  deriving DecidableEq, Repr

/-- The text of a fault. -/
def Fault.message : Fault → String
  | .emptyPrefix => "system_prefix must not be empty"
  | .structuralPrefix => "system_prefix must not contain ':', '\x7b', '\x7d' or '*'"
  | .noBatch => "scan_batch must be at least 1"
  | .limits => "limit_min must be at least 1 and not greater than limit_max"
  | .fewArgs => "max_args must be at least 10"
  | .noFields => "max_fields must be at least 1"
  | .noNames => "max_name_len must be at least 1"

/-- The first condition that the settings break. -/
def fault? (s : Settings) : Option Fault :=
  if s.systemPrefix.isEmpty then some .emptyPrefix
  else if Key.holdsStructural s.systemPrefix then some .structuralPrefix
  else if s.scanBatch = 0 then some .noBatch
  else if s.limitMin = 0 ∨ s.limitMax < s.limitMin then some .limits
  else if s.maxArgs < 10 then some .fewArgs
  else if s.maxFields = 0 then some .noFields
  else if s.maxNameLen = 0 then some .noNames
  else none

/-- Settings that keep every condition. -/
def Valid (s : Settings) : Prop := s.fault? = none

instance (s : Settings) : Decidable s.Valid := by unfold Valid; infer_instance

/-- Accepts settings that keep every condition. -/
def validate (s : Settings) : Except EngineError Unit :=
  match s.fault? with
  | none => .ok ()
  | some f => .error (.config f.message)

/-- The number of rows for a limit: what was asked for, brought between the two bounds. -/
def clampLimit (s : Settings) (requested : Option Nat) : Nat :=
  match requested with
  | none => s.limitMin
  | some n => min (max n s.limitMin) s.limitMax

end Settings
end SlotSql
