import Rehearsal.Http.Cookie
import Rehearsal.Text.Substitution
import Rehearsal.Text.Utf8

/-!
# Cookie jar

The cookies that a client keeps, told apart by name, path and domain. `Jar.receive` keeps what an
answer from some URL sets, `Jar.header?` is the header with the cookies for a URL, and
`readHeader` takes that header apart again.
-/

namespace Rehearsal.Http

open Text

/-! ## Where a cookie is sent -/

/-- The hosts to which a cookie is sent. -/
inductive CookieDomain where
  /-- The host that set it. -/
  | only (host : List Char)
  /-- A host and those below it. -/
  | below (host : List Char)
  deriving DecidableEq

/-- The host of a domain. -/
def CookieDomain.host : CookieDomain → List Char
  | .only h => h
  | .below h => h

/-- Whether the name of a host is below another. -/
def isBelow (host suffix : List Char) : Bool := ('.' :: suffix).isSuffixOf host

/-- Whether a domain takes in the host of a URL. -/
def CookieDomain.covers (d : CookieDomain) (u : Url) : Bool :=
  match u.host, d with
  | none, _ => false
  | some h, .only host => h.text = host
  | some (.name s), .below host => s = host || isBelow s host
  | some h, .below host => h.text = host

/-- The path from which on a cookie is sent if it does not say one: the folder of the URL. -/
def defaultPath (u : Url) : List Char :=
  let folder := ((u.path.text.reverse.dropWhile (· ≠ '/')).drop 1).reverse
  if folder.isEmpty then ['/'] else folder

/-- Whether a path is below another, by whole segments. -/
def pathCovers (path : List Char) (u : Url) : Bool :=
  match dropBeginning? path u.path.text with
  | none => false
  | some rest => rest.isEmpty || path.getLast? = some '/' || rest.head? = some '/'

/-- Whether what is sent to a URL cannot be read on the way. -/
def isSafe (u : Url) : Bool :=
  u.isSecure ||
    match u.host with
    | some (.name s) => s = "localhost".toList
    | some (.address4 n) => n / Nat.pow 2 24 = 127
    | some (.address6 ps) => ps = [0, 0, 0, 0, 0, 0, 0, 1]
    | none => false

/-- Whether a URL is one of HTTP, by the beginning of its scheme. -/
def hasHttpScheme (u : Url) : Bool := "http".toList.isPrefixOf u.scheme

/-! ## The jar -/

/-- A cookie that is kept. -/
structure Cookie where
  name : List Char
  value : List Char
  domain : CookieDomain
  path : List Char
  secure : Bool
  httpOnly : Bool
  deriving DecidableEq

namespace Cookie

/-- What tells a cookie from others. -/
def key (c : Cookie) : List Char × List Char × List Char := (c.domain.host, c.path, c.name)

/-- Whether a cookie is sent to a URL. -/
def isFor (c : Cookie) (u : Url) : Bool :=
  pathCovers c.path u && c.domain.covers u && (!c.secure || isSafe u) &&
    (!c.httpOnly || hasHttpScheme u)

/-- How a cookie stands in a header. -/
def pair (c : Cookie) : List Char := c.name ++ '=' :: c.value

end Cookie

/-- The domain of a cookie that an answer from a URL sets, if that URL may set it. -/
def SetCookie.domainFrom? (c : SetCookie) (u : Url) : Option CookieDomain :=
  match c.domain with
  | none => u.host.map fun h => .only h.text
  | some text =>
    match Url.asciiDomain? (trim text) with
    | none => none
    | some [] => u.host.map fun h => .only h.text
    | some host =>
      let d := CookieDomain.below host
      if d.covers u then some d else none

/-- The cookie that an answer from a URL sets, if that URL may set it. -/
def SetCookie.from? (c : SetCookie) (u : Url) : Option Cookie :=
  (c.domainFrom? u).map fun d =>
    { name := c.name
      value := c.value
      domain := d
      path :=
        match c.path with
        | some p => if p.head? = some '/' then p else defaultPath u
        | none => defaultPath u
      secure := c.secure
      httpOnly := c.httpOnly }

/-- The cookies that a client keeps, the oldest first. -/
abbrev Jar := List Cookie

namespace Jar

/-- The jar without a cookie of a key. -/
def without (jar : Jar) (key : List Char × List Char × List Char) : Jar := jar.filter (·.key ≠ key)

/-- The jar with a cookie in the place of the one with its key, or last. -/
def put (jar : Jar) (c : Cookie) : Jar :=
  if jar.any (·.key = c.key) then jar.map fun d => if d.key = c.key then c else d
  else jar ++ [c]

/-- The jar after a cookie was set by an answer from a URL; one that is over is dropped. -/
def accept (now : Instant) (u : Url) (jar : Jar) (s : SetCookie) : Jar :=
  match s.from? u with
  | none => jar
  | some c => if s.lifetime.isOver now then jar.without c.key else jar.put c

/-- Whether a byte may stand in the value of a header. -/
def isHeaderByte (b : UInt8) : Bool := b = 9 || (32 ≤ b && b ≠ 127)

/-- What the value of a header asks to keep. -/
def setCookie? (header : List UInt8) : Option SetCookie :=
  if header.all isHeaderByte then (decode? header).bind SetCookie.parse? else none

/-- The jar after an answer from a URL with some headers. -/
def receive (now : Instant) (u : Url) (headers : List (List UInt8)) (jar : Jar) : Jar :=
  (headers.filterMap setCookie?).foldl (accept now u) jar

/-- The jar without the cookies that have ended. -/
def losing (jar : Jar) (ended : Cookie → Bool) : Jar := jar.filter fun c => !ended c

/-- The cookies for a URL. -/
def cookiesFor (jar : Jar) (u : Url) : List Cookie := jar.filter (·.isFor u)

/-- The header with the cookies for a URL; there is none if it would be empty. -/
def header? (jar : Jar) (u : Url) : Option (List UInt8) :=
  let bytes := utf8 (joinWith [';', ' '] ((jar.cookiesFor u).map Cookie.pair))
  if bytes.isEmpty then none else some bytes

end Jar

/-- The pair of name and value that a part of a header is. -/
def readPair? (part : List Char) : Option (List Char × List Char) := splitOnce '=' (trim part)

/-- The pairs of name and value in a header with cookies. -/
def readHeader (header : List UInt8) : List (List Char × List Char) :=
  (splitOn ';' (decodeLossy header)).filterMap readPair?

end Rehearsal.Http
