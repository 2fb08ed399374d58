import SlotSql.Cluster.Dialogue
/-!
# Work of the engine

Statements are carried out in dialogues with the cluster that can fail with an error of the engine.
-/
namespace SlotSql

open Cluster

/-- A dialogue that can fail with an error of the engine. -/
abbrev Engine (α : Type) := ExceptT EngineError Dialogue α

namespace Engine

/-- A dialogue whose failures become errors of the engine. -/
def ofAsking {α : Type} (x : Asking α) : Engine α :=
  ExceptT.mk (x.run.bind fun
    | .ok a => .done (.ok a)
    | .error e => .done (.error e.toEngine))

instance : MonadLift (ExceptT ClusterError Dialogue) (ExceptT EngineError Dialogue) where
  monadLift := ofAsking

end Engine
end SlotSql
