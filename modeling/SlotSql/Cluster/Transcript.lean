import SlotSql.Cluster.Context
/-!
# Transcripts

What a network has answered so far. A computation on a cluster runs on it up to the first question
that has no answer yet; once that is answered, the computation can be run again and gets further. So
it needs no network of its own, and its outcome depends on the answers alone.
-/
namespace SlotSql.Cluster

/-- What is asked of a network. -/
inductive Question where
  | connect (node : NodeConfig)
  /-- Sends a command over the connection of a number. -/
  | send (link : Nat) (cmd : Command)

/-- What a network answers. -/
inductive Answered where
  /-- A connection was opened and got a number. -/
  | connected (link : Nat)
  | replied (r : Reply)
  | failed (e : ClusterError)

/-- The answers to questions to come, and the first question behind the last answer. -/
structure Transcript where
  answers : List Answered := []
  question : Option Question := none

namespace Transcript

/-- What stands for an answer that there is not yet. -/
def unanswered : ClusterError := .io "no answer yet"

/-- Asks a question; the result is its answer, if it has one. -/
def ask (t : Transcript) (q : Question) : Option Answered × Transcript :=
  match t.question, t.answers with
  | none, a :: answers => (some a, { t with answers })
  | none, [] => (none, { t with question := some q })
  | some _, _ => (none, t)

/-- The number of a new connection. -/
def linkOf : Option Answered → Except ClusterError Nat
  | some (.connected link) => .ok link
  | some (.failed e) => .error e
  | _ => .error unanswered

/-- The reply to a command. -/
def replyOf : Option Answered → Except ClusterError Reply
  | some (.replied r) => .ok r
  | some (.failed e) => .error e
  | _ => .error unanswered

/-- A number of pages that no scan needs. -/
def patience : Nat := Number.span 62

instance : Server Transcript Nat where
  connect n t := (linkOf (t.ask (.connect n)).1, (t.ask (.connect n)).2)
  execute k cmd t := (replyOf (t.ask (.send k cmd)).1, k, (t.ask (.send k cmd)).2)
  patience _ := patience

end Transcript
end SlotSql.Cluster
