import Rehearsal.Http.Date
import Rehearsal.Text.Blank
import Rehearsal.Text.Lines
import Rehearsal.Url.Basic

/-!
# Cookies

What the value of a `Set-Cookie` header asks a client to keep. `SetCookie.parse?` reads the pair of
name and value and those attributes that decide where the cookie is sent and when it ends.
-/

namespace Rehearsal.Http

open Text

/-- When a cookie ends. -/
inductive Lifetime where
  /-- With the session. -/
  | session
  /-- So many seconds after it was received. -/
  | lasting (seconds : Nat)
  | until (t : Instant)
  deriving DecidableEq

/-- Whether a cookie that is received at a time is over at once. -/
def Lifetime.isOver (now : Instant) : Lifetime → Bool
  | .session => false
  | .lasting seconds => seconds = 0
  | .until t => t.seconds ≤ now.seconds

/-- What a header asks to keep. -/
structure SetCookie where
  name : List Char
  value : List Char
  /-- The domain below which it is sent, if it says one. -/
  domain : Option (List Char) := none
  path : Option (List Char) := none
  secure : Bool := false
  /-- Whether it is kept from whatever is not HTTP. -/
  httpOnly : Bool := false
  maxAge : Option Nat := none
  expires : Option Instant := none
  deriving DecidableEq

namespace SetCookie

/-- An age that is never reached. -/
def maxAgeBound : Nat := Nat.pow 2 63

/-- The seconds that an age says; a negative one is over at once, and a huge one never. -/
def ageSeconds? (s : List Char) : Option Nat :=
  let (negative, digits) :=
    match s with
    | '-' :: r => (true, r)
    | r => (false, r)
  if digits.all isDigit then
    if negative then some 0 else some (min ((natOfDigits? 10 digits).getD maxAgeBound) maxAgeBound)
  else none

/-- A domain without the dot in front. -/
def plainDomain (s : List Char) : List Char :=
  match s with
  | '.' :: r => r
  | r => r

/-- What an attribute adds; one that is not known or has no sense adds nothing. -/
def addAttribute (c : SetCookie) (part : List Char) : SetCookie :=
  let (key, value?) :=
    match splitOnce '=' part with
    | some (k, v) => (trim k, some (trim v))
    | none => (trim part, none)
  let is (name : String) : Bool := key.map Char.toLower = name.toList
  if is "secure" then { c with secure := true }
  else if is "httponly" then { c with httpOnly := true }
  else
    match value? with
    | none => c
    | some v =>
      if is "domain" then if v.isEmpty then c else { c with domain := some (plainDomain v) }
      else if is "path" then { c with path := some v }
      else if is "max-age" then { c with maxAge := (ageSeconds? v).or c.maxAge }
      else if is "expires" then { c with expires := (Date.parse? v).or c.expires }
      else c

/-- The cookie of a header's text; it needs a pair with a name. -/
def parse? (s : List Char) : Option SetCookie :=
  match splitOn ';' s with
  | [] => none
  | pair :: attributes =>
    match splitOnce '=' pair with
    | none => none
    | some (k, v) =>
      let name := trim k
      if name.isEmpty then none
      else some (attributes.foldl addAttribute { name := name, value := trim v })

/-- When a cookie ends: its age counts before its date. -/
def lifetime (c : SetCookie) : Lifetime :=
  match c.maxAge, c.expires with
  | some seconds, _ => .lasting seconds
  | none, some t => .until t
  | none, none => .session

end SetCookie
end Rehearsal.Http
