import Rehearsal.Http.Request

/-!
# Network

The other end of all connections, as data: which replies are still to come, and which requests were
sent so far. The reply does not depend on the request, so any behaviour of servers in a run is one
list of replies.
-/

namespace Rehearsal.Http

/-- An answer of a server. -/
structure Answer where
  status : Nat
  /-- The values of the headers that set cookies. -/
  setCookies : List (List UInt8) := []
  /-- Where to go instead. -/
  location : Option (List UInt8) := none
  deriving DecidableEq

/-- Whether an answer says that all is well. -/
def Answer.isSuccess (a : Answer) : Bool := 200 ≤ a.status && a.status < 300

/-- What comes of a request. -/
inductive Reply where
  | answer (a : Answer)
  /-- The connection is closed without an answer. -/
  | dropped
  /-- There is no connection. -/
  | unreachable
  deriving DecidableEq

/-- The other end of all connections. -/
structure Network where
  /-- The replies to come. -/
  replies : List Reply
  /-- The reply to all requests after them. -/
  otherwise : Reply
  /-- The requests so far with what came of them, the first one first. -/
  history : List (Request × Reply)

namespace Network

/-- A network that cannot be reached. -/
def down : Network := ⟨[], .unreachable, []⟩

/-- The requests that a server received. -/
def received (n : Network) : List Request := (n.history.filter (·.2 ≠ .unreachable)).map (·.1)

/-- The reply to a request, and the network after it. -/
def ask (n : Network) (r : Request) : Reply × Network :=
  match n.replies with
  | [] => (n.otherwise, { n with history := n.history ++ [(r, n.otherwise)] })
  | reply :: rest => (reply, { n with replies := rest, history := n.history ++ [(r, reply)] })

end Network
end Rehearsal.Http
