import Rehearsal.Pattern.Weight
import Rehearsal.Text.Blank
import Rehearsal.Text.Numeral

/-!
# Reading patterns

The text of a pattern, with groups, classes, counts and modes. `Pattern.parse?` is `none` where a
text is no pattern: a bracket without its partner, a count with nothing to repeat, an escape
without meaning, a mode that is said twice, brackets and counts nested too deep, or counts that make
it too large.
-/

namespace Rehearsal

open Text Unicode

namespace Pattern

/-! ## Modes -/

/-- How the rest of a group is read. -/
structure Modes where
  ignoreCase : Bool := false
  /-- Anchors hold at every line. -/
  multiLine : Bool := false
  /-- A dot takes line breaks too. -/
  dotAll : Bool := false
  /-- Classes take characters past ASCII. -/
  wide : Bool := true
  /-- Blanks and comments do not count. -/
  verbose : Bool := false
  /-- Carriage returns end lines. -/
  returns : Bool := false
  deriving DecidableEq

/-- The modes with one switched by its letter. -/
def Modes.switch? (m : Modes) (letter : Char) (on : Bool) : Option Modes :=
  match letter with
  | 'i' => some { m with ignoreCase := on }
  | 'm' => some { m with multiLine := on }
  | 's' => some { m with dotAll := on }
  | 'u' => some { m with wide := on }
  | 'x' => some { m with verbose := on }
  | 'R' => some { m with returns := on }
  | 'U' => some m
  | _ => none

/-- A text without the blanks and comments that do not count at its beginning. -/
def Modes.skip (m : Modes) (s : List Char) : List Char :=
  if m.verbose then go false s else s
where
  /-- Passes over blanks, and over a comment up to the end of its line. -/
  go (inComment : Bool) : List Char → List Char
    | [] => []
    | c :: r =>
      if inComment then go (c ≠ '\n') r
      else if isBlank c then go false r
      else if c = '#' then go true r
      else c :: r

/-- The character after the next one where blanks do not count; what stands in a comment counts. -/
def Modes.peekAfter (m : Modes) (s : List Char) : Option Char :=
  let r := s.drop 1
  if !m.verbose then r.head?
  else
    match r.dropWhile isBlank with
    | [] => r.head?
    | '#' :: t =>
      match t.dropWhile isBlank with
      | [] => r.head?
      | c :: _ => some c
    | c :: _ => some c

/-- A set as it is meant where case may not count. -/
def Modes.adapt (m : Modes) (s : CodeSet) : CodeSet :=
  if !m.ignoreCase then s else if m.wide then s.anyCase else s.anyAsciiCase

/-- The complement of a set, which may not take characters past ASCII unless they are known. -/
def Modes.turn? (m : Modes) (turned : Bool) (s : CodeSet) : Option CodeSet :=
  if !turned then some s else if m.wide then some s.complement else none

/-! ## Escapes -/

/-- What an escape stands for. -/
inductive Escape where
  /-- A character; one that is written with two digits may be a mere byte. -/
  | char (c : Char) (twoDigits : Bool)
  | set (s : CodeSet)
  | anchor (a : Anchor)

/-- The character of a number. -/
def charOf? (n : Nat) : Option Char := if n.isValidChar then some (Char.ofNat n) else none

/-- So many characters, with blanks between them where these do not count. -/
def takeSpaced (m : Modes) : Nat → List Char → List Char × List Char
  | 0, s => ([], s)
  | _, [] => ([], [])
  | n + 1, c :: r =>
    let (taken, rest) := takeSpaced m n (m.skip r)
    (c :: taken, rest)

/-- The characters up to a closing brace, without blanks where these do not count; so many
characters are looked at. -/
def takeBraced (m : Modes) : Nat → List Char → Option (List Char × List Char)
  | 0, _ => none
  | fuel + 1, s =>
    match m.skip s with
    | [] => none
    | '\x7d' :: r => some ([], r)
    | c :: r => (takeBraced m fuel r).map fun (taken, rest) => (c :: taken, rest)

/-- A character by its code point: so many digits, or digits in braces. -/
def codePoint? (m : Modes) (digits : Nat) (s : List Char) : Option (Escape × List Char) := do
  let (run, rest) ←
    match m.skip s with
    | '\x7b' :: r => takeBraced m (r.length + 1) r
    | s =>
      let (run, rest) := takeSpaced m digits s
      if run.length < digits then none else some (run, rest)
  let c ← charOf? (← natOfDigits? 16 run)
  let twoDigits : Bool := digits = 2 && (m.skip s).head? ≠ some '\x7b'
  return (.char c twoDigits, m.skip rest)

/-- A text cut at the first place where another one stands in it. -/
def cutAt? (mark : List Char) : List Char → Option (List Char × List Char)
  | [] => none
  | c :: r =>
    if mark.isPrefixOf (c :: r) then some ([], (c :: r).drop mark.length)
    else (cutAt? mark r).map fun (before, after) => (c :: before, after)

/-- The set of a property: a name, or a property and its value with an equals sign, a colon, or a
sign for all other values. -/
def propertySet? (turned : Bool) (name : List Char) : Option (Bool × CodeSet) :=
  match cutAt? "!=".toList name, cutAt? [':'] name, cutAt? ['='] name with
  | some (property, value), _, _ => (valued? property value).map (!turned, ·)
  | none, some (property, value), _ => (valued? property value).map (turned, ·)
  | none, none, some (property, value) => (valued? property value).map (turned, ·)
  | none, none, none => (named? name).map (turned, ·)

/-- A set by its property: a letter, or a name in braces. -/
def property? (m : Modes) (turned : Bool) (s : List Char) : Option (CodeSet × List Char) := do
  let (name, rest) ←
    match m.skip s with
    | '\x7b' :: r => takeBraced m (r.length + 1) r
    | '\\' :: _ => none
    | c :: r => some ([c], m.skip r)
    | [] => none
  if !m.wide then none
  let (turned, set) ← propertySet? turned name
  let set ← m.turn? turned (m.adapt set)
  return (set, rest)

/-- The edge that a name in braces after a word boundary stands for. -/
def namedEdge? (name : List Char) : Option WordEdge :=
  let names : List (String × WordEdge) :=
    [("start", .start), ("end", .stop), ("start-half", .startHalf), ("end-half", .stopHalf)]
  (names.find? (·.1.toList = name)).map (·.2)

/-- Whether a character may stand in the name of an edge. -/
def isEdgeChar (c : Char) : Bool := c.isAlpha || c = '-'

/-- The characters of the name of an edge, and what follows them; so many are looked at. -/
def takeEdge (m : Modes) : Nat → List Char → List Char × List Char
  | 0, s => ([], s)
  | _, [] => ([], [])
  | fuel + 1, c :: r =>
    if isEdgeChar c then
      let (taken, rest) := takeEdge m fuel (m.skip r)
      (c :: taken, rest)
    else ([], c :: r)

/-- A word boundary, which may be one of a special kind. In braces, what does not begin like a name
is a count. -/
def boundary? (m : Modes) (s : List Char) : Option (WordEdge × List Char) :=
  match s with
  | '\x7b' :: r =>
    match m.skip r with
    | [] => none
    | c :: r =>
      if !isEdgeChar c then some (.either, s)
      else
        match takeEdge m (r.length + 1) (c :: r) with
        | (name, '\x7d' :: rest) => (namedEdge? name).map (·, rest)
        | _ => none
  | s => some (.either, s)

/-- What stands after a backslash. -/
def escape? (m : Modes) : List Char → Option (Escape × List Char)
  | [] => none
  | c :: r =>
    let char (c : Char) : Option (Escape × List Char) := some (.char c false, r)
    let anchor (a : Anchor) : Option (Escape × List Char) := some (.anchor a, r)
    match c with
    | 'x' => codePoint? m 2 r
    | 'u' => codePoint? m 4 r
    | 'U' => codePoint? m 8 r
    | 'p' => (property? m false r).map fun (s, r) => (.set s, r)
    | 'P' => (property? m true r).map fun (s, r) => (.set s, r)
    | 'a' => char '\x07'
    | 'f' => char '\x0c'
    | 't' => char '\t'
    | 'n' => char '\n'
    | 'r' => char '\r'
    | 'v' => char '\x0b'
    | 'A' => anchor .textStart
    | 'z' => anchor .textEnd
    | 'b' => (boundary? m r).map fun (e, r) => (.anchor (.word e m.wide), r)
    | 'B' => anchor (.word .neither m.wide)
    | '<' => anchor (.word .start m.wide)
    | '>' => anchor (.word .stop m.wide)
    | c =>
      if ['d', 's', 'w', 'D', 'S', 'W'].contains c then
        (m.turn? c.isUpper (CharClass.ofLetter m.wide c.toLower)).map fun s => (.set s, r)
      else if c.toNat < 128 && !c.isAlphanum then char c
      else none

/-- A character as it may stand by itself: a byte that is no character may not. -/
def Modes.allows (m : Modes) (c : Char) (twoDigits : Bool) : Bool :=
  m.wide || !twoDigits || c.toNat < 128

/-! ## Classes in brackets -/

/-- An operation between sets. -/
inductive SetOp where
  | inter
  | without
  | either

/-- What an operation makes of two sets. -/
def SetOp.apply : SetOp → CodeSet → CodeSet → CodeSet
  | .inter, a, b => a.inter b
  | .without, a, b => a.without b
  | .either, a, b => a.either b

/-- A set with how deep brackets and operations are nested in its text. -/
structure NestedSet where
  set : CodeSet
  depth : Nat

/-- A set as far as it was read: what is left of an operation, and the items after it. -/
structure OpenSet where
  pending : Option (NestedSet × SetOp) := none
  items : CodeSet := .empty
  count : Nat := 0
  /-- The deepest of the items. -/
  depth : Nat := 0

namespace OpenSet

/-- A set with one more item. -/
def add (o : OpenSet) (item : NestedSet) : OpenSet :=
  { o with
    items := o.items.union item.set
    count := o.count + 1
    depth := max o.depth item.depth }

/-- A set with one more character. -/
def addChar (o : OpenSet) (c : Char) : OpenSet := o.add ⟨.single c.toNat, 0⟩

/-- The set that was read. -/
def close (m : Modes) (o : OpenSet) : NestedSet :=
  let operand : NestedSet := ⟨o.items, if o.count ≤ 1 then o.depth else o.depth + 1⟩
  match o.pending with
  | some (a, op) => ⟨op.apply (m.adapt a.set) (m.adapt operand.set), max a.depth operand.depth + 1⟩
  | none => operand

end OpenSet

/-- An item of a class: a character or a set. -/
def setItem? (m : Modes) : List Char → Option ((Char ⊕ CodeSet) × List Char)
  | '\\' :: r =>
    match escape? m r with
    | some (.char c _, r) => some (.inl c, r)
    | some (.set s, r) => some (.inr s, r)
    | _ => none
  | c :: r => some (.inl c, r)
  | [] => none

/-- Whether a character may stand in a class. -/
def Modes.allowsInSet (m : Modes) (c : Char) : Bool := m.wide || c.toNat < 128

/-- A range of a class, or one item of it. -/
def setRange? (m : Modes) (s : List Char) : Option (NestedSet × List Char) := do
  let (first, s) ← setItem? m s
  let one : Option (NestedSet × List Char) :=
    let rest := m.skip s
    match first with
    | .inl c => if m.allowsInSet c then some (⟨.single c.toNat, 0⟩, rest) else none
    | .inr set => some (⟨set, 0⟩, rest)
  match m.skip s with
  | [] => none
  | '-' :: r =>
    let next := m.peekAfter ('-' :: r)
    if next = some ']' ∨ next = some '-' then one
    else
      match m.skip r with
      | [] => none
      | r => do
        let (last, r) ← setItem? m r
        match first, last with
        | .inl a, .inl b =>
          if a ≤ b && m.allowsInSet a && m.allowsInSet b then
            return (⟨.range a.toNat b.toNat, 0⟩, r)
          else none
        | _, _ => none
  | _ => one

/-- A class by its name between colons, after a bracket. The whole is `none` if there is none, and
the set is if it may not be turned around. -/
def namedSet? (m : Modes) : List Char → Option (Option CodeSet × List Char)
  | ':' :: r =>
    let (turned, r) := match r with
      | '^' :: r => (true, r)
      | r => (false, r)
    let name := r.takeWhile (· ≠ ':')
    match r.drop name.length, CharClass.named? name with
    | ':' :: ']' :: rest, some s => some (m.turn? turned (m.adapt s), rest)
    | _, _ => none
  | _ => none

/-- The dashes that stand for themselves at the beginning of a class; so many characters are looked
at. -/
def openingDashes (m : Modes) : Nat → OpenSet → List Char → OpenSet × List Char
  | 0, o, s => (o, s)
  | fuel + 1, o, '-' :: r => openingDashes m fuel (o.addChar '-') (m.skip r)
  | _, o, s => (o, s)

/-- The beginning of a class after its bracket: whether it is turned around, and the dashes or the
bracket that stand for themselves there. -/
def setStart (m : Modes) (s : List Char) : Bool × OpenSet × List Char :=
  let (turned, s) := match m.skip s with
    | '^' :: r => (true, m.skip r)
    | r => (false, r)
  match openingDashes m (s.length + 1) {} s with
  | (o, ']' :: r) => if o.count = 0 then (turned, o.addChar ']', m.skip r) else (turned, o, ']' :: r)
  | (o, r) => (turned, o, r)

/-- The rest of a class after what was read of it; so many more characters are looked at. -/
def setRest? (m : Modes) : Nat → Bool → OpenSet → List Char → Option (NestedSet × List Char)
  | 0, _, _, _ => none
  | fuel + 1, turned, o, s =>
    let operation (op : SetOp) (r : List Char) : Option (NestedSet × List Char) :=
      setRest? m fuel turned { pending := some (o.close m, op) } r
    match m.skip s with
    | [] => none
    | ']' :: r => do
      let closed := o.close m
      let set ← m.turn? turned (m.adapt closed.set)
      return (⟨set, closed.depth + 1⟩, r)
    | '[' :: r =>
      match namedSet? m r with
      | some (none, _) => none
      | some (some s, r) => setRest? m fuel turned (o.add ⟨s, 0⟩) r
      | none => do
        let (innerTurned, inner, r) := setStart m r
        let (item, r) ← setRest? m fuel innerTurned inner r
        setRest? m fuel turned (o.add item) r
    | '&' :: '&' :: r => operation .inter r
    | '-' :: '-' :: r => operation .without r
    | '~' :: '~' :: r => operation .either r
    | s => do
      let (item, r) ← setRange? m s
      setRest? m fuel turned (o.add item) r

/-- A class after its bracket. -/
def setClass? (m : Modes) (s : List Char) : Option (NestedSet × List Char) :=
  let (turned, o, r) := setStart m s
  setRest? m (2 * s.length + 1) turned o r

/-! ## Groups and counts -/

/-- What a bracket opens. -/
inductive Opening where
  /-- A group, with the modes inside; what matches it may be kept. -/
  | group (m : Modes) (captures : Bool)
  /-- New modes for the rest of the enclosing group. -/
  | modes (m : Modes)

/-- Letters of modes up to a colon or a closing bracket; those after a dash are switched off. -/
def modeLetters? (m : Modes) (seen : List Char) (off : Bool) :
    List Char → Option (Modes × List Char × List Char)
  | [] => none
  | c :: r =>
    if c = ':' ∨ c = ')' then if seen.head? = some '-' then none else some (m, seen, c :: r)
    else if seen.contains c then none
    else if c = '-' then modeLetters? m (c :: seen) true r
    else do modeLetters? (← m.switch? c !off) (c :: seen) off r

/-- Letters that have no trait in the tables yet. -/
def newLetters : CodeSet := .ofText
  "88F C5C CDC A7CE-A7CF A7D2 A7D4 A7F1 10940-10959 10EC5-10EC7 10EFA-10EFB 11B60-11B67 11DB0-11DDB
   16EA0-16EB8 16EBB-16ED3 16FF2-16FF6 187F8-187FF 18D09-18D1E 18D80-18DF2 1E6C0-1E6DE 1E6E0-1E6F5
   1E6FE-1E6FF 2B73A-2B73F 2CEA2-2CEAD 323B0-33479"

/-- Digits that have no category in the tables yet. -/
def newDigits : CodeSet := .ofText "11DE0-11DE9 16FF4-16FF6"

/-- A letter of any script, or a part of one. -/
def isLetter (c : Char) : Bool :=
  if c.toNat < 128 then c.isAlpha else (withTrait "alphabetic").holds c || newLetters.holds c

/-- A digit or another character for a number. -/
def isNumeric (c : Char) : Bool :=
  if c.toNat < 128 then c.isDigit
  else
    (ofCategories [.decimalNumber, .letterNumber, .otherNumber]).holds c || newDigits.holds c

/-- Whether a text may be the name of a group. -/
def isGroupName : List Char → Bool
  | [] => false
  | c :: r =>
    (c = '_' || isLetter c) &&
      r.all fun c => ['_', '.', '[', ']'].contains c || isLetter c || isNumeric c

/-- What an opening bracket opens, and the names of groups so far. -/
def opening? (m : Modes) (names : List (List Char)) (s : List Char) :
    Option (Opening × List (List Char) × List Char) :=
  let named (r : List Char) : Option (Opening × List (List Char) × List Char) :=
    let name := r.takeWhile (· ≠ '>')
    match r.drop name.length with
    | _ :: rest =>
      if isGroupName name && !names.contains name then some (.group m true, name :: names, rest)
      else none
    | [] => none
  match m.skip s with
  | '?' :: 'P' :: '<' :: r => named r
  | '?' :: '<' :: '=' :: _ => none
  | '?' :: '<' :: '!' :: _ => none
  | '?' :: '<' :: r => named r
  | '?' :: r =>
    match modeLetters? m [] false r with
    | some (m, _, ':' :: rest) => some (.group m false, names, rest)
    | some (m, seen, _ :: rest) => if seen.isEmpty then none else some (.modes m, names, rest)
    | _ => none
  | r => some (.group m true, names, r)

/-- The digits at the beginning of a text, with blanks between them where these do not count; so
many characters are looked at. -/
def takeDigits (m : Modes) : Nat → List Char → List Char × List Char
  | 0, s => ([], s)
  | _, [] => ([], [])
  | fuel + 1, c :: r =>
    if isDigit c then
      let (taken, rest) := takeDigits m fuel (m.skip r)
      (c :: taken, rest)
    else ([], c :: r)

/-- A text without blanks at its beginning, nor comments between them where these do not count; so
many characters are looked at. -/
def dropBlanks (m : Modes) : Nat → List Char → List Char
  | 0, s => s
  | _, [] => []
  | fuel + 1, c :: r => if isBlank c then dropBlanks m fuel (m.skip r) else c :: r

/-- A number of a count, which may have blanks around it. -/
def countNumber? (m : Modes) (s : List Char) : Option (Nat × List Char) := do
  let (run, rest) := takeDigits m (s.length + 1) (s.dropWhile isBlank)
  let n ← natOfDigits? 10 run
  if n < Nat.pow 2 32 then return (n, dropBlanks m (rest.length + 1) rest) else none

/-- A text without the mark of a count that takes as little as it can. -/
def dropLazy : List Char → List Char
  | '?' :: r => r
  | r => r

/-- A count after its brace: how often at least, and how often more at most. -/
def count? (m : Modes) (s : List Char) : Option (Nat × Option Nat × List Char) := do
  let (least, s) ← countNumber? m (m.skip s)
  let finish (more : Option Nat) (s : List Char) : Option (Nat × Option Nat × List Char) :=
    match s with
    | '\x7d' :: r => some (least, more, dropLazy (m.skip r))
    | _ => none
  match s with
  | ',' :: r =>
    match m.skip r with
    | '\x7d' :: r => finish none ('\x7d' :: r)
    | r => do
      let (most, r) ← countNumber? m r
      if least ≤ most then finish (some (most - least)) r else none
  | s => finish (some 0) s

/-! ## Patterns -/

/-- An item of a pattern: what it matches, and how deep brackets and counts are nested in it. New
modes are an item too, which cannot be repeated. -/
structure Item where
  pattern : Pattern
  depth : Nat := 0
  repeatable : Bool := true

/-- How deep brackets and counts may be nested. -/
def depthLimit : Nat := 250

/-- Items one after the other. -/
def Item.ofList (items : List Item) : Item :=
  match items with
  | [] => ⟨.empty, 0, true⟩
  | [i] => i
  | items =>
    ⟨items.foldr (fun i p => i.pattern.followedBy p) .empty,
      items.foldl (fun n i => max n i.depth) 0 + 1, true⟩

/-- A group as far as it was read. -/
structure OpenGroup where
  /-- The alternatives before the last one, newest first. -/
  before : List Item := []
  /-- The items of the last alternative, newest first. -/
  items : List Item := []

namespace OpenGroup

/-- The last alternative. -/
def alternative (g : OpenGroup) : Item := .ofList g.items.reverse

/-- A group with one more item. -/
def push (g : OpenGroup) (i : Item) : OpenGroup := { g with items := i :: g.items }

/-- A group with one more item that holds no others. -/
def pushLeaf (g : OpenGroup) (p : Pattern) : OpenGroup := g.push ⟨p, 0, true⟩

/-- The pattern of a group. -/
def close (g : OpenGroup) : Item :=
  match g.before.reverse with
  | [] => g.alternative
  | first :: r =>
    let all := r ++ [g.alternative]
    ⟨all.foldl (fun p i => p.orElse i.pattern) first.pattern,
      all.foldl (fun n i => max n i.depth) first.depth + 1, true⟩

/-- A group with one more alternative. -/
def alternate (g : OpenGroup) : OpenGroup := { before := g.alternative :: g.before }

/-- A group whose last item is repeated, if there is one that can be. -/
def repeat? (g : OpenGroup) (least : Nat) (more : Option Nat) : Option OpenGroup :=
  match g.items with
  | i :: r =>
    if i.repeatable then
      some { g with items := ⟨i.pattern.repeated least more, i.depth + 1, true⟩ :: r }
    else none
  | [] => none

end OpenGroup

/-- What a dot takes; it has to know all characters. -/
def dotSet? (m : Modes) : Option CodeSet :=
  if !m.wide then none
  else if m.dotAll then some .full
  else if m.returns then some (CodeSet.ofRanges [(0xA, 0xA), (0xD, 0xD)]).complement
  else some (CodeSet.single 0xA).complement

/-- A character by itself. -/
def charPattern (m : Modes) (c : Char) : Pattern := .one (m.adapt (.single c.toNat))

/-- The pattern up to the end of its group, the names of groups so far, and the rest; so many more
characters are looked at. -/
def groupRest? : Nat → Modes → List (List Char) → OpenGroup → List Char →
    Option (Item × List (List Char) × List Char)
  | 0, _, _, _, _ => none
  | fuel + 1, m, names, g, s =>
    let more (g : OpenGroup) (r : List Char) := groupRest? fuel m names g r
    let counted (least : Nat) (bound : Option Nat) (r : List Char) := do
      more (← g.repeat? least bound) r
    match m.skip s with
    | [] => some (g.close, names, [])
    | ')' :: r => some (g.close, names, ')' :: r)
    | '|' :: r => more g.alternate r
    | '?' :: r => counted 0 (some 1) (dropLazy r)
    | '*' :: r => counted 0 none (dropLazy r)
    | '+' :: r => counted 1 none (dropLazy r)
    | '\x7b' :: r => do
      if g.items.isEmpty then none
      let (least, bound, r) ← count? m r
      counted least bound r
    | '[' :: r => do
      let (s, r) ← setClass? m r
      more (g.push ⟨.one s.set, s.depth, true⟩) r
    | '(' :: r =>
      match opening? m names r with
      | none => none
      | some (.modes m, names, r) => groupRest? fuel m names (g.push ⟨.empty, 0, false⟩) r
      | some (.group inner captures, names, r) =>
        match groupRest? fuel inner names {} r with
        | some (i, names, ')' :: r) =>
          let p := if captures then .capture i.pattern else i.pattern
          groupRest? fuel m names (g.push ⟨p, i.depth + 1, true⟩) r
        | _ => none
    | '.' :: r => do more (g.pushLeaf (.one (← dotSet? m))) r
    | '^' :: r =>
      more (g.pushLeaf (.anchor (if m.multiLine then .lineStart m.returns else .textStart))) r
    | '$' :: r => more (g.pushLeaf (.anchor (if m.multiLine then .lineEnd m.returns else .textEnd))) r
    | '\\' :: r =>
      match escape? m r with
      | none => none
      | some (.char c twoDigits, r) =>
        if m.allows c twoDigits then more (g.pushLeaf (charPattern m c)) r else none
      | some (.set s, r) => more (g.pushLeaf (.one s)) r
      | some (.anchor a, r) => more (g.pushLeaf (.anchor a)) r
    | c :: r => more (g.pushLeaf (charPattern m c)) r

/-- The pattern that a text denotes. -/
def parse? (s : List Char) : Option Pattern :=
  match groupRest? (2 * s.length + 2) {} [] {} s with
  | some (i, _, []) => if depthLimit < i.depth || i.pattern.isTooLarge then none else some i.pattern
  | _ => none

end Pattern
end Rehearsal
