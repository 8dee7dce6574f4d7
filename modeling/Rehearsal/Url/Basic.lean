import Rehearsal.Url.Address
import Rehearsal.Url.Domain
import Rehearsal.Url.Percent

/-!
# URLs

A URL taken apart. `Url.parse` reads a text, possibly as a reference from another URL, and
`Url.text` writes the parts again. The schemes of the web are special: they have a host, a path
that starts at the root, and a port that need not be written.
-/

namespace Rehearsal

open Text

/-- Why a text is not a URL. -/
inductive UrlFault where
  | emptyHost
  | invalidDomain
  | invalidPort
  | invalidAddress4
  | invalidAddress6
  | invalidHostCharacter
  | relativeWithoutBase
  | relativeToOpaque
  deriving DecidableEq

/-- The wording of a fault. -/
def UrlFault.message : UrlFault → String
  | .emptyHost => "empty host"
  | .invalidDomain => "invalid international domain name"
  | .invalidPort => "invalid port number"
  | .invalidAddress4 => "invalid IPv4 address"
  | .invalidAddress6 => "invalid IPv6 address"
  | .invalidHostCharacter => "invalid domain character"
  | .relativeWithoutBase => "relative URL without a base"
  | .relativeToOpaque => "relative URL with a cannot-be-a-base base"

/-- A host. -/
inductive Host where
  | name (s : List Char)
  | address4 (n : Nat)
  | address6 (pieces : List Nat)
  deriving DecidableEq

/-- The text of a host. -/
def Host.text : Host → List Char
  | .name s => s
  | .address4 n => Url.writeAddress4 n
  | .address6 ps => '[' :: Url.writeAddress6 ps ++ [']']

/-- A path: a text that is not taken apart, or segments, each after a slash. -/
inductive UrlPath where
  | plain (s : List Char)
  | segments (list : List (List Char))
  deriving DecidableEq

/-- The text of a path. -/
def UrlPath.text : UrlPath → List Char
  | .plain s => s
  | .segments list => list.flatMap ('/' :: ·)

/-- A URL taken apart. -/
structure Url where
  scheme : List Char
  username : List Char
  password : Option (List Char)
  host : Option Host
  port : Option Nat
  path : UrlPath
  query : Option (List Char)
  fragment : Option (List Char)
  deriving DecidableEq

namespace Url

/-- The port of a special scheme. -/
def standardPort? (scheme : List Char) : Option Nat :=
  if scheme = "http".toList ∨ scheme = "ws".toList then some 80
  else if scheme = "https".toList ∨ scheme = "wss".toList then some 443
  else if scheme = "ftp".toList then some 21
  else none

/-- Whether a scheme is the one of files. -/
def isFileScheme (scheme : List Char) : Bool := scheme = "file".toList

/-- Whether a scheme is special. -/
def isSpecial (scheme : List Char) : Bool := isFileScheme scheme || (standardPort? scheme).isSome

/-- The user information before a host. -/
def userText (u : Url) : List Char :=
  match u.password with
  | none => if u.username.isEmpty then [] else u.username ++ ['@']
  | some p => u.username ++ ':' :: p ++ ['@']

/-- The text of a URL. -/
def text (u : Url) : List Char :=
  let authority : List Char :=
    match u.host with
    | none => if isFileScheme u.scheme then ['/', '/'] else []
    | some h =>
      '/' :: '/' :: u.userText ++ h.text ++
        match u.port with
        | none => []
        | some p => ':' :: decimal p
  let guarded : List Char :=
    match u.host, u.path with
    | none, .segments ([] :: _ :: _) => if isFileScheme u.scheme then [] else ['/', '.']
    | _, _ => []
  u.scheme ++ ':' :: authority ++ guarded ++ u.path.text ++
    (match u.query with
    | none => []
    | some q => '?' :: q) ++
    match u.fragment with
    | none => []
    | some f => '#' :: f

/-- The text of a URL. -/
def toString (u : Url) : String := String.ofList u.text

instance : ToString Url := ⟨toString⟩

/-- The port of a URL, written or not. -/
def effectivePort? (u : Url) : Option Nat := u.port.orElse fun _ => standardPort? u.scheme

/-- Whether a URL is fetched over HTTP. -/
def isHttp (u : Url) : Bool := u.scheme = "http".toList || u.scheme = "https".toList

/-- Whether a URL is fetched over an encrypted connection. -/
def isSecure (u : Url) : Bool := u.scheme = "https".toList

/-! ## Reading the parts -/

/-- A character of schemes. -/
def isSchemeChar (c : Char) : Bool := c.isAlphanum || c = '+' || c = '-' || c = '.'

/-- The scheme at the beginning of a text, in lower case, and the text after its colon. -/
def scheme? (s : List Char) : Option (List Char × List Char) :=
  let name := s.takeWhile isSchemeChar
  match name.head?, s.drop name.length with
  | some c, ':' :: r => if c.isAlpha then some (name.map Char.toLower, r) else none
  | _, _ => none

/-- Whether a character ends the authority of a URL. -/
def endsAuthority (special : Bool) (c : Char) : Bool :=
  c = '/' || c = '?' || c = '#' || (special && c = '\\')

/-- The user information before the last at-sign of an authority, and the text after it. -/
def userInfo (special : Bool) (s : List Char) :
    Except UrlFault (List Char × Option (List Char) × List Char) :=
  let authority := s.takeWhile fun c => !endsAuthority special c
  let rest := s.drop authority.length
  let back := authority.reverse
  let host := (back.takeWhile (· ≠ '@')).reverse
  match back.dropWhile (· ≠ '@') with
  | [] => .ok ([], none, s)
  | _ :: info =>
    let info := info.reverse
    if info.isEmpty then
      match host, rest with
      | [], _ :: _ => .error .emptyHost
      | _, _ => .ok ([], none, host ++ rest)
    else
      let name := info.takeWhile (· ≠ ':')
      let password : Option (List Char) :=
        match info.drop name.length with
        | _ :: c :: r => some (encode .userInfo (c :: r))
        | _ => none
      .ok (encode .userInfo name, password, host ++ rest)

/-- The text of a host, and the text after it; a colon in brackets does not end it. -/
def hostText (special inBrackets : Bool) : List Char → List Char × List Char
  | [] => ([], [])
  | c :: r =>
    if (c = ':' && !inBrackets) || endsAuthority special c then ([], c :: r)
    else
      let inside := if c = '[' then true else if c = ']' then false else inBrackets
      let (h, rest) := hostText special inside r
      (c :: h, rest)

/-- The address in brackets. -/
def bracketed (s : List Char) : Except UrlFault Host :=
  match s.getLast? with
  | some ']' =>
    match readAddress6? (s.drop 1).dropLast with
    | some ps => .ok (.address6 ps)
    | none => .error .invalidAddress6
  | _ => .error .invalidAddress6

/-- The host that a text denotes after a special scheme. -/
def specialHost (s : List Char) : Except UrlFault Host :=
  if s.head? = some '[' then bracketed s
  else
    match asciiDomain? (decodeLossy (decode s)) with
    | none => .error .invalidDomain
    | some domain =>
      if domain.isEmpty then .error .emptyHost
      else if endsInNumber domain then
        match readAddress4? domain with
        | some n => .ok (.address4 n)
        | none => .error .invalidAddress4
      else .ok (.name domain)

/-- A character that may stand in no host. -/
def isForbiddenInHost (c : Char) : Bool :=
  c = Char.ofNat 0 || "\t\n\r #/:<>?@[\\]^|".toList.contains c

/-- The host that a text denotes after any other scheme. -/
def otherHost (s : List Char) : Except UrlFault Host :=
  if s.head? = some '[' then bracketed s
  else if s.any isForbiddenInHost then .error .invalidHostCharacter
  else .ok (.name (encode .opaquePath s))

/-- The port after a colon, unless it is the standard one, and the text after it. -/
def portText (scheme s : List Char) : Except UrlFault (Option Nat × List Char) :=
  let digits := s.takeWhile isDigit
  let rest := s.drop digits.length
  let n := (natOfDigits? 10 digits).getD 0
  let ends : Bool :=
    match rest with
    | [] => true
    | c :: _ => endsAuthority true c
  if 65535 < n ∨ !ends then .error .invalidPort
  else .ok (if digits.isEmpty ∨ standardPort? scheme = some n then none else some n, rest)

/-- The host and the port of an authority, and the text after them. -/
def hostAndPort (scheme s : List Char) : Except UrlFault (Host × Option Nat × List Char) := do
  let special := isSpecial scheme
  let (h, rest) := hostText special false s
  if special && h.isEmpty then throw .emptyHost
  let host ← if special then specialHost h else otherHost h
  match rest with
  | ':' :: r =>
    if h.isEmpty then throw .emptyHost
    let (port, r) ← portText scheme r
    return (host, port, r)
  | r => return (host, none, r)

/-- Whether a segment stands for the current folder. -/
def isHere (s : List Char) : Bool := s = ['.'] || s.map Char.toLower = "%2e".toList

/-- Whether a segment stands for the enclosing folder. -/
def isUp (s : List Char) : Bool :=
  let l := s.map Char.toLower
  l = "..".toList || l = ".%2e".toList || l = "%2e.".toList || l = "%2e%2e".toList

/-- Whether a text names a drive by a letter, as `C:` or `C|`. -/
def isDrive : List Char → Bool
  | [c, d] => c.isAlpha && (d = ':' || d = '|')
  | _ => false

/-- The enclosing folder of one that is given by its segments, newest first. Nothing leads out of a
drive. -/
def enclosing : List (List Char) → List (List Char)
  | [] => []
  | s :: r => if isDrive s then s :: r else r

/-- The segments of a path after those that are known, newest first. -/
def resolve (known : List (List Char)) : List (List Char) → List (List Char)
  | [] => known.reverse
  | [s] =>
    if isUp s then ([] :: enclosing known).reverse
    else if isHere s then ([] :: known).reverse
    else (s :: known).reverse
  | s :: t :: r =>
    if isUp s then resolve (enclosing known) (t :: r)
    else if isHere s then resolve known (t :: r)
    else resolve (s :: known) (t :: r)

/-- A text up to its query or fragment, and the rest. -/
def pathText (s : List Char) : List Char × List Char :=
  let p := s.takeWhile fun c => c ≠ '?' && c ≠ '#'
  (p, s.drop p.length)

/-- The parts of a path between slashes; a special scheme takes backslashes for slashes. -/
def pathParts (special : Bool) (s : List Char) : List (List Char) :=
  (splitOn '/' (if special then s.map fun c => if c = '\\' then '/' else c else s)).map (encode .path)

/-- The path of a text that follows an authority. -/
def pathAfterAuthority (special : Bool) (s : List Char) : UrlPath :=
  let slash (c : Char) : Bool := c = '/' || (special && c = '\\')
  match s with
  | [] => .segments (if special then [[]] else [])
  | c :: r => .segments (resolve [] (pathParts special (if slash c then r else c :: r)))

/-- The query and the fragment that a text ends with. -/
def queryAndFragment (special : Bool) (s : List Char) : Option (List Char) × Option (List Char) :=
  let fragment (s : List Char) : Option (List Char) :=
    match s with
    | '#' :: f => some (encode .fragment f)
    | _ => none
  match s with
  | '?' :: r =>
    let q := r.takeWhile (· ≠ '#')
    (some (encode (if special then .specialQuery else .query) q), fragment (r.drop q.length))
  | s => (none, fragment s)

/-- A URL from its parts and the text of its query and fragment. -/
def assemble (scheme username : List Char) (password : Option (List Char)) (host : Option Host)
    (port : Option Nat) (path : UrlPath) (tail : List Char) : Url :=
  let (query, fragment) := queryAndFragment (isSpecial scheme) tail
  ⟨scheme, username, password, host, port, path, query, fragment⟩

/-- A URL from after the slashes of its authority. -/
def fromAuthority (scheme s : List Char) : Except UrlFault Url := do
  let special := isSpecial scheme
  let (username, password, s) ← userInfo special s
  let (host, port, s) ← hostAndPort scheme s
  let known := !username.isEmpty || password.isSome
  if host = .name [] && known then throw .emptyHost
  let (p, tail) := pathText s
  return assemble scheme username password (some host) port (pathAfterAuthority special p) tail

/-- The parts of a reference that replace those of the URL it stands in. -/
def relativeTo (base : Url) (s : List Char) : Except UrlFault Url :=
  let special := isSpecial base.scheme
  let slash (c : Char) : Bool := c = '/' || (special && c = '\\')
  let known : List (List Char) :=
    match base.path with
    | .segments l => l
    | .plain _ => []
  let withPath (p : UrlPath) (tail : List Char) : Url :=
    assemble base.scheme base.username base.password base.host base.port p tail
  match s with
  | [] => .ok { base with fragment := none }
  | '?' :: _ => .ok (withPath base.path s)
  | '#' :: _ => .ok { withPath base.path s with query := base.query }
  | c :: d :: r =>
    if slash c && slash d && !isFileScheme base.scheme then
      fromAuthority base.scheme (if special then (r.dropWhile slash) else r)
    else
      let (p, tail) := pathText s
      if slash c then .ok (withPath (.segments (resolve [] (pathParts special (p.drop 1)))) tail)
      else .ok (withPath (.segments (resolve known.dropLast.reverse (pathParts special p))) tail)
  | [c] =>
    if slash c then .ok (withPath (.segments [[]]) [])
    else .ok (withPath (.segments (resolve known.dropLast.reverse (pathParts special [c]))) [])

/-- The segments of the path of a file after those that are known, newest first. A first one that is
a drive is written with a colon. Also tells whether there is one. -/
def fileSegments (known : List (List Char)) : List (List Char) → Bool × List (List Char)
  | [] => (false, known.reverse)
  | s :: r =>
    if known.isEmpty && isDrive s then
      let drive := s.take 1 ++ [':']
      (true, if r.isEmpty then [drive] else resolve [drive] r)
    else if r.isEmpty then (false, resolve known [s])
    else if isUp s then fileSegments (enclosing known) r
    else if isHere s then fileSegments known r
    else fileSegments (s :: known) r

/-- Segments without the empty ones in front. -/
def dropEmptySegments (segments : List (List Char)) : List (List Char) :=
  match segments.dropWhile (·.isEmpty) with
  | [] => [[]]
  | rest => rest

/-- The URL of a file on a host, from the text of its path. A path on a drive has no host. -/
def fileOn (scheme : List Char) (host : Option Host) (s : List Char) : Url :=
  let (p, tail) := pathText s
  let p :=
    match p with
    | c :: r => if c = '/' || c = '\\' then r else c :: r
    | [] => []
  let (onDrive, segments) := fileSegments [] (pathParts true p)
  assemble scheme [] none (if onDrive then none else host) none
    (.segments (dropEmptySegments segments)) tail

/-- A URL of a file, from after its colon. A drive in the place of the host starts the path. -/
def ofFile (scheme s : List Char) : Except UrlFault Url := do
  let slash (c : Char) : Bool := c = '/' || c = '\\'
  match s with
  | c :: d :: r =>
    if slash c && slash d then
      let h := r.takeWhile fun c => !endsAuthority true c
      if isDrive h then return fileOn scheme none r
      let host ← if h.isEmpty then pure none else some <$> specialHost h
      let host := if host = some (.name "localhost".toList) then none else host
      return fileOn scheme host (r.drop h.length)
    else return fileOn scheme none s
  | s => return fileOn scheme none s

/-- A URL after its scheme. -/
def afterScheme (base : Option Url) (scheme s : List Char) : Except UrlFault Url :=
  if isFileScheme scheme then ofFile scheme s
  else if isSpecial scheme then
    let slashes := s.takeWhile fun c => c = '/' || c = '\\'
    let absolute := fromAuthority scheme (s.drop slashes.length)
    match base with
    | some b => if slashes.length < 2 ∧ b.scheme = scheme then relativeTo b s else absolute
    | none => absolute
  else
    match s with
    | '/' :: '/' :: r => fromAuthority scheme r
    | '/' :: r =>
      let (p, tail) := pathText r
      .ok (assemble scheme [] none none none (.segments (resolve [] (pathParts false p))) tail)
    | s =>
      let (p, tail) := pathText s
      .ok (assemble scheme [] none none none (.plain (encode .opaquePath p)) tail)

/-- A text without control characters and blanks at its ends, and without tabs and line breaks. -/
def clean (s : List Char) : List Char :=
  let outer (c : Char) : Bool := c.toNat ≤ 32
  let inner := ((s.dropWhile outer).reverse.dropWhile outer).reverse
  inner.filter fun c => c ≠ '\t' && c ≠ '\n' && c ≠ '\r'

/-- The URL that a text denotes where another URL may stand before it. -/
def parseFrom (base : Option Url) (s : List Char) : Except UrlFault Url :=
  let s := clean s
  match scheme? s with
  | some (scheme, r) => afterScheme base scheme r
  | none =>
    match base with
    | none => .error .relativeWithoutBase
    | some b =>
      match b.path, s with
      | .plain _, '#' :: f => .ok { b with fragment := some (encode .fragment f) }
      | .plain _, _ => .error .relativeToOpaque
      | _, s => relativeTo b s

/-- The URL that a text denotes. -/
def parse (s : String) : Except UrlFault Url := parseFrom none s.toList

/-- The origin of a URL of the web: scheme, host and port, unless the port is the standard one. -/
def webOrigin? (u : Url) : Option (List Char) :=
  match u.host with
  | some h =>
    if (standardPort? u.scheme).isSome then
      some (u.scheme ++ "://".toList ++ h.text ++
        match u.port with
        | none => []
        | some p => ':' :: decimal p)
    else none
  | none => none

/-- The origin of a URL; one that is inside another URL counts, and others have none. -/
def origin (u : Url) : String :=
  let inner : Option (List Char) :=
    if u.scheme = "blob".toList then
      match parseFrom none u.path.text with
      | .ok v => v.webOrigin?
      | .error _ => none
    else none
  String.ofList ((u.webOrigin?.orElse fun _ => inner).getD "null".toList)

end Url
end Rehearsal
