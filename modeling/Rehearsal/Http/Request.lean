import Rehearsal.Base64
import Rehearsal.Http.Fault
import Rehearsal.Http.Jar

/-!
# Requests

A request as a client makes it, and how one is put together: for a text that has to be a URL,
with headers whose names and values have to be allowed, and with a form as its body. User names
in the URL become a header of their own. When a request is sent, the length of its body is stated
before the body (`Request.sentHeaders`); what is left out are the headers that all requests have
alike, such as the host and what is accepted.
-/

namespace Rehearsal.Http

open Text

/-- What is asked of a server. -/
inductive Method where
  | get
  | post
  deriving DecidableEq

/-- The name of a method. -/
def Method.name : Method → String
  | .get => "GET"
  | .post => "POST"

/-- A request. -/
structure Request where
  method : Method
  url : Url
  /-- Lower-case names with values, but for cookies. -/
  headers : List (String × String) := []
  /-- The header with cookies. -/
  cookies : Option (List UInt8) := none
  body : Option String := none
  deriving DecidableEq

/-- The credentials in a URL, percent-decoded, if they are text. -/
def userOf? (u : Url) : Option (List Char × Option (List Char)) := do
  let name ← decode? (Url.decode u.username)
  let password := u.password.bind fun p => decode? (Url.decode p)
  if name.isEmpty && password.isNone then none else some (name, password)

/-- The header that carries credentials. -/
def authorization (name : List Char) (password : Option (List Char)) : String :=
  "Basic " ++ String.ofList (Base64.encode (utf8 (name ++ ':' :: password.getD [])))

/-- A character of the names of headers. -/
def isHeaderNameChar (c : Char) : Bool :=
  c.isAlphanum || ("!#$%&'*+-.^_|~".toList ++ [Char.ofNat 96]).contains c

namespace Request

/-- A request for the URL that a text denotes. -/
def ofText (method : Method) (text : String) : Except Fault Request :=
  match Url.parse text with
  | .error f => .error (.notUrl f)
  | .ok u =>
    if u.host.isNone then .error (.schemeNotAllowed u)
    else
      match userOf? u with
      | none => .ok { method := method, url := u }
      | some (name, password) =>
        .ok { method := method, url := { u with username := [], password := none }
              headers := [("authorization", authorization name password)] }

/-- A request without a header. -/
def without (r : Request) (name : String) : Request :=
  { r with headers := r.headers.filter (·.1 ≠ name) }

/-- A request with a header in the place of those of its name. -/
def replaceHeader (r : Request) (name value : String) : Request :=
  { r with headers := (r.without name).headers ++ [(name, value)] }

/-- A request with one more header. -/
def addHeader (r : Request) (name value : String) : Except Fault Request :=
  if name.isEmpty || 65535 < name.length || !name.toList.all isHeaderNameChar then
    .error .invalidHeaderName
  else if !(utf8 value.toList).all Jar.isHeaderByte then .error .invalidHeaderValue
  else
    let lower := String.ofList (name.toList.map Char.toLower)
    .ok { r with headers := r.headers ++ [(lower, value)] }

/-- A request with a form as its body. -/
def withForm (r : Request) (fields : List (String × String)) : Request :=
  let pair (f : String × String) : List Char :=
    Url.encodeForm f.1.toList ++ '=' :: Url.encodeForm f.2.toList
  { r.replaceHeader "content-type" "application/x-www-form-urlencoded" with
    body := some (String.ofList (joinWith ['&'] (fields.map pair))) }

/-- The name of the header that states the length of a body. -/
def lengthHeader : String := "content-length"

/-- Whether a header states a length. -/
def statesLength (header : String × String) : Bool :=
  header.1 = lengthHeader && !header.2.isEmpty && header.2.toList.all isDigit

/-- The headers with which a request is sent, but for cookies: the length of a body is stated, unless
a header of the request itself states one. -/
def sentHeaders (r : Request) : List (String × String) :=
  match r.body with
  | none => r.headers
  | some body =>
    if r.headers.any statesLength then r.headers
    else (r.replaceHeader lengthHeader (toString (utf8Length body.toList))).headers

/-- Of the headers with which a request is sent, those that do not state a length are its own. -/
theorem filter_sentHeaders (r : Request) {p : String × String → Bool}
    (hp : ∀ value, p (lengthHeader, value) = false) :
    r.sentHeaders.filter p = r.headers.filter p := by
  have hother : (r.headers.filter (·.1 ≠ lengthHeader)).filter p = r.headers.filter p := by
    rw [List.filter_filter]
    refine List.filter_congr fun e _ => ?_
    by_cases hn : e.1 = lengthHeader
    · obtain ⟨name, value⟩ := e
      obtain rfl : name = lengthHeader := hn
      simp [hp value]
    · simp [hn]
  unfold sentHeaders
  split
  · rfl
  · split
    · rfl
    · rw [replaceHeader, without, List.filter_append, hother, List.filter_cons_of_neg (by simp [hp]),
        List.filter_nil, List.append_nil]

/-- A request with the cookies of a jar for its URL, if there are any. -/
def withCookies (r : Request) (jar : Jar) : Request :=
  { r with cookies := (jar.header? r.url).or r.cookies }

/-- The greatest number of bytes of a URL in a request. -/
def longestUrl : Nat := 65534

/-- Whether a URL can stand in a request: it is not too long, and its host can be named. -/
def isNameable (u : Url) : Bool :=
  (toString u).utf8ByteSize ≤ longestUrl &&
    match u.host with
    | some (.name s) => !s.any fun c => c = '"' || c = Char.ofNat 96 || c = '\x7b' || c = '\x7d'
    | _ => true

end Request
end Rehearsal.Http
