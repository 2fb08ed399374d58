import SlotSql.Error
/-!
# Errors of the cluster

What can go wrong between the engine and a node. Some of these errors mean that the connection can
no longer be used.
-/
namespace SlotSql.Cluster

/-- A failure of a command. -/
inductive ClusterError where
  | connectionFailed (addr reason : String)
  | closed (addr : String)
  | io (message : String)
  | protocol (message : String)
  /-- The node answered with an error. -/
  | reply (message : String)
  /-- The reply is of another kind than the command's. -/
  | unexpectedReply (command expected got : String)
  /-- The reply is of the right kind, but its contents are not. -/
  | malformedReply (command reason : String)
  | redirect (addr reason : String)
  | unknownNode (node : String)
  | topology (addr reason : String)
  | tooManyArgs (command : String) (count max : Nat)
  deriving DecidableEq, Repr

namespace ClusterError

/-- The name of the kind of an error. -/
def kind : ClusterError → String
  | connectionFailed _ _ => "ConnectionFailed"
  | closed _ => "Closed"
  | io _ => "Io"
  | protocol _ => "Protocol"
  | reply _ => "Reply"
  | unexpectedReply _ _ _ => "UnexpectedReply"
  | malformedReply _ _ => "MalformedReply"
  | redirect _ _ => "Redirect"
  | unknownNode _ => "UnknownNode"
  | topology _ _ => "Topology"
  | tooManyArgs _ _ _ => "TooManyArgs"

/-- What went wrong. -/
def message : ClusterError → String
  | connectionFailed a r => "connection failed to node " ++ a ++ ": " ++ r
  | closed a => "connection closed by " ++ a
  | io m => "io error: " ++ m
  | protocol m => "protocol error: " ++ m
  | reply m => m
  | unexpectedReply c e g => "unexpected reply to " ++ c ++ ": expected " ++ e ++ ", got " ++ g
  | malformedReply c r => "malformed reply to " ++ c ++ ": " ++ r
  | redirect a r => "redirection to " ++ a ++ " failed: " ++ r
  | unknownNode n => "unknown node: " ++ n
  | topology a r => "topology check failed on " ++ a ++ ": " ++ r
  | tooManyArgs c n m =>
    "command " ++ c ++ " has " ++ toString n ++ " arguments, limit is " ++ toString m

/-- Whether the connection must be dropped. -/
def isConnectionError : ClusterError → Bool
  | connectionFailed _ _ | closed _ | io _ | protocol _ => true
  | _ => false

/-- The failure as an error of the engine. -/
def toEngine (e : ClusterError) : EngineError := .exec e.message

end ClusterError
end SlotSql.Cluster
