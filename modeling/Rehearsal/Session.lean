import Rehearsal.Browser.Script
import Rehearsal.Failure
import Rehearsal.Http.Client

/-!
# Sessions

A session is an HTTP client with a jar of its own: what it does out of the browser can be handed
over to the browser as cookies. Main definitions: `Session.cookies`, the pairs that would be sent
to a URL, and `Session.browserCookies`, the cookies for the origins of some URLs, each once.
-/

namespace Rehearsal

/-- A client that keeps cookies. -/
abbrev Session := Http.Client

namespace Session

/-- A session without cookies. That a client is there to begin with is taken for granted: the failure
to make one, for want of what its connections need, is not modelled. -/
def start (network : Http.Network) (now : Instant) : Session := ⟨some [], network, now⟩

/-- A session that has forgotten its cookies. -/
def reset (s : Session) : Session := start s.network s.now

/-- What an exchange amounts to: the status of its answer. -/
def outcome (r : Except Http.Fault Http.Answer × Http.Client) : Except Failure Nat × Session :=
  match r with
  | (.ok a, s) => (.ok a.status, s)
  | (.error f, s) => (.error (.http f), s)

/-- The status of what a URL answers, and the session after it. -/
def status (s : Session) (url : String) : Except Failure Nat × Session := outcome (s.get url)

/-- The names and values that would be sent to a URL. -/
def cookies (s : Session) (url : String) : Except Failure (List (String × String)) := do
  let u ← urlOf url
  let pairs := (((s.jar.getD []).header? u).map Http.readHeader).getD []
  return pairs.map fun (name, value) => (String.ofList name, String.ofList value)

/-- The value that would be sent to a URL under a name, the first one if there are more. -/
def cookie (s : Session) (url name : String) : Except Failure (Option String) := do
  let pairs ← s.cookies url
  return (pairs.find? (·.1 = name)).map (·.2)

/-- The cookies that a URL adds to those of others: no two of one name and origin. -/
def addCookies (origin : String) (known : List BrowserCookie) :
    List (String × String) → List BrowserCookie
  | [] => known
  | (name, value) :: r =>
    if known.any fun c => c.name = name && c.url = origin then addCookies origin known r
    else addCookies origin (known ++ [⟨name, value, origin⟩]) r

/-- The cookies of some URLs, added to those of others. -/
def collectCookies (s : Session) (known : List BrowserCookie) :
    List String → Except Failure (List BrowserCookie)
  | [] => .ok known
  | url :: r => do
    let u ← urlOf url
    let pairs ← s.cookies url
    s.collectCookies (addCookies u.origin known pairs) r

/-- The cookies for the origins of some URLs. -/
def browserCookies (s : Session) (urls : List String) : Except Failure (List BrowserCookie) :=
  s.collectCookies [] urls

end Session
end Rehearsal
