import Rehearsal.Http.Network

/-!
# HTTP client

A client sends requests over a network, keeps cookies in a jar if it has one, and follows
redirects: at most ten, with the URL it comes from as referer, and without credentials once
the host changes. Its clock stands still while it works: a cookie is over when it is received, or it
is kept (`Session.authenticateLosing` is about those that end during a login).
-/

namespace Rehearsal.Http

open Text

/-! ## Redirects -/

/-- A URL as other servers are told of it: without credentials and without fragment. -/
def referral (u : Url) : String :=
  toString { u with username := [], password := none, fragment := none }

/-- Whether two URLs lead to the same host and port. -/
def sameHost (u v : Url) : Bool := u.host = v.host && u.effectivePort? = v.effectivePort?

/-- The URL to which an answer to a request for another one leads. -/
def redirectTarget? (u : Url) (a : Answer) : Option Url := do
  let text ← decode? (← a.location)
  match Url.parseFrom (some u) text with
  | .ok v => if Request.isNameable v then some v else none
  | .error _ => none

/-- What is asked after a redirect by a status: the same again, or a page; `none` if the status is
not one of a redirect. -/
def redirected? (r : Request) (status : Nat) : Option Request :=
  if status = 301 ∨ status = 302 ∨ status = 303 then
    some { r.without "content-type" with method := .get, body := none }
  else if status = 307 ∨ status = 308 then some r
  else none

/-- The request that follows a redirect to a URL. -/
def Request.leadTo (r : Request) (v : Url) : Request :=
  let told := if r.url.isSecure && !v.isSecure then r else r.replaceHeader "referer" (referral r.url)
  let kept := if sameHost r.url v then told else { told.without "authorization" with cookies := none }
  { kept with url := v }

/-- The request that follows an answer, if it is a redirect. -/
def nextRequest? (r : Request) (a : Answer) : Option Request := do
  let again ← redirected? r a.status
  let v ← redirectTarget? r.url a
  return again.leadTo v

/-! ## The client -/

/-- A client. -/
structure Client where
  /-- The cookies, if the client keeps any. -/
  jar : Option Jar
  network : Network
  now : Instant

namespace Client

/-- A client after an answer from a URL. -/
def learn (c : Client) (u : Url) (a : Answer) : Client :=
  { c with jar := c.jar.map (Jar.receive c.now u a.setCookies) }

/-- A request with the cookies of a client. -/
def dress (c : Client) (r : Request) : Request :=
  match c.jar with
  | some jar => r.withCookies jar
  | none => r

/-- The last answer to a request after at most `left` redirects, and the client after it. -/
def exchange (c : Client) (left : Nat) (r : Request) : Except Fault Answer × Client :=
  if !r.url.isHttp then (.error (.ledAstray r.url), c)
  else
    let (reply, network) := c.network.ask r
    let c := { c with network := network }
    match reply with
    | .unreachable => (.error (.unreachable r.url), c)
    | .dropped => (.error (.dropped r.url), c)
    | .answer a =>
      let c := c.learn r.url a
      match nextRequest? r a, left with
      | none, _ => (.ok a, c)
      | some _, 0 => (.error (.tooManyRedirects r.url), c)
      | some next, left + 1 => exchange c left (c.dress next)

/-- How many redirects are followed. -/
def redirectLimit : Nat := 10

/-- The last answer to a request, and the client after it. -/
def send (c : Client) (r : Request) : Except Fault Answer × Client :=
  if !r.url.isHttp then (.error (.schemeNotAllowed r.url), c)
  else if !Request.isNameable r.url then (.error (.notNameable r.url), c)
  else c.exchange redirectLimit (c.dress r)

/-- The last answer to a request that may not have come about, and the client after it. -/
def sendIfOk (c : Client) (r : Except Fault Request) : Except Fault Answer × Client :=
  match r with
  | .ok r => c.send r
  | .error f => (.error f, c)

/-- The answer of the URL that a text denotes, and the client after it. -/
def get (c : Client) (text : String) : Except Fault Answer × Client :=
  c.sendIfOk (Request.ofText .get text)

end Client
end Rehearsal.Http
