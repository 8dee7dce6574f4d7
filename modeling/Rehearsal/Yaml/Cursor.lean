import Rehearsal.Text.Utf8

/-!
# Places in YAML texts

A cursor is the rest of a text with its place. Lines and columns count characters from zero, the
index counts bytes; a carriage return with a line feed is one line break.
-/

namespace Rehearsal.Yaml

/-- A place in a text: the bytes before it, its line and the characters before it in the line. -/
structure Mark where
  index : Nat
  line : Nat
  column : Nat
  deriving DecidableEq, Inhabited

/-- Whether a place is the beginning of the text, which messages do not name. -/
def Mark.isStart (m : Mark) : Bool := m.line = 0 && m.column = 0

/-- A place in words, with lines and columns counted from one. -/
def Mark.describe (m : Mark) : String :=
  if m.isStart then s!"position {m.index}" else s!"line {m.line + 1} column {m.column + 1}"

/-- Why a text is not YAML: what is wrong where, and what was being read from where on. -/
structure Problem where
  text : String
  mark : Mark
  context : Option (String × Mark)
  /-- The byte at fault, where there is no line to name. -/
  offset : Nat := 0

/-- The wording of a problem. -/
def Problem.message (p : Problem) : String :=
  let place :=
    if !p.mark.isStart then s!" at {p.mark.describe}"
    else if p.offset ≠ 0 then s!" at position {p.offset}"
    else ""
  let context :=
    match p.context with
    | none => ""
    | some (what, m) =>
      let same := m.line = p.mark.line ∧ m.column = p.mark.column
      s!", {what}" ++ (if m.isStart ∨ same then "" else s!" at {m.describe}")
  p.text ++ place ++ context

/-- A blank inside a line. -/
def isSpace (c : Char) : Bool := c = ' ' || c = '\t'

/-- A character that ends a line. -/
def isBreak (c : Char) : Bool :=
  let n := c.toNat
  n = 10 || n = 13 || n = 0x85 || n = 0x2028 || n = 0x2029

/-- Whether a text starts with a blank or a line break, or is at its end. -/
def atBlank : List Char → Bool
  | [] => true
  | c :: _ => isSpace c || isBreak c

/-- Whether a text starts with a line break or is at its end. -/
def atBreak : List Char → Bool
  | [] => true
  | c :: _ => isBreak c

/-- A character of names: of anchors, directives and tag handles. -/
def isNameChar (c : Char) : Bool := c.isAlphanum || c = '_' || c = '-'

/-- Whether a character may stand in a text. -/
def isAllowed (c : Char) : Bool :=
  let n := c.toNat
  n = 9 || n = 10 || n = 13 || (0x20 ≤ n && n ≤ 0x7E) || n = 0x85 || (0xA0 ≤ n && n ≤ 0xD7FF) ||
    (0xE000 ≤ n && n ≤ 0xFFFD) || 0x10000 ≤ n

/-- A byte order mark. -/
def isByteOrderMark (c : Char) : Bool := c.toNat = 0xFEFF

/-- The rest of a text and where it stands. -/
structure Cursor where
  rest : List Char
  mark : Mark

namespace Cursor

/-- The cursor after one character that ends no line. -/
def skip (c : Cursor) : Cursor :=
  match c.rest with
  | [] => c
  | x :: r => ⟨r, ⟨c.mark.index + x.utf8Size, c.mark.line, c.mark.column + 1⟩⟩

/-- The cursor after some characters that end no line. -/
def skipN (c : Cursor) (n : Nat) : Cursor :=
  let taken := c.rest.take n
  ⟨c.rest.drop n,
    ⟨taken.foldl (fun i x => i + x.utf8Size) c.mark.index, c.mark.line, c.mark.column + taken.length⟩⟩

/-- The first characters for which a condition holds, none of them a line break, and the cursor
after them. -/
def span (p : Char → Bool) (c : Cursor) : List Char × Cursor :=
  let taken := c.rest.takeWhile fun x => p x && !isBreak x
  (taken, c.skipN taken.length)

/-- The cursor after the characters for which a condition holds. -/
def skipWhile (p : Char → Bool) (c : Cursor) : Cursor := (c.span p).2

/-- The line break at a cursor as it counts in a text, and the cursor after it. -/
def break? (c : Cursor) : Option (List Char × Cursor) :=
  let next (width : Nat) : Mark := ⟨c.mark.index + width, c.mark.line + 1, 0⟩
  match c.rest with
  | '\r' :: '\n' :: r => some (['\n'], ⟨r, next 2⟩)
  | x :: r =>
    if !isBreak x then none
    else if x.toNat = 0x2028 ∨ x.toNat = 0x2029 then some ([x], ⟨r, next x.utf8Size⟩)
    else some (['\n'], ⟨r, next x.utf8Size⟩)
  | [] => none

/-- The cursor after a line break, if there is one. -/
def skipBreak (c : Cursor) : Cursor := (c.break?.map (·.2)).getD c

/-- The cursor after a byte order mark that begins a line. -/
def skipByteOrderMark (c : Cursor) : Cursor :=
  if c.mark.column = 0 && c.rest.head?.any isByteOrderMark then c.skip else c

/-- Whether a character comes next. -/
def sees (c : Cursor) (x : Char) : Bool := c.rest.head? = some x

/-- Whether one of some characters comes next. -/
def seesAny (c : Cursor) (xs : List Char) : Bool :=
  match c.rest with
  | [] => false
  | x :: _ => xs.contains x

/-- Whether a line starts with three dashes or dots that stand alone. -/
def atDocumentMark (c : Cursor) : Bool :=
  c.mark.column = 0 &&
    match c.rest with
    | '-' :: '-' :: '-' :: r => atBlank r
    | '.' :: '.' :: '.' :: r => atBlank r
    | _ => false

/-- A problem at the cursor, met while reading something from a mark on. -/
def problem (c : Cursor) (context : String) (start : Mark) (text : String) : Problem :=
  { text, mark := c.mark, context := some (context, start) }

end Cursor
end Rehearsal.Yaml
