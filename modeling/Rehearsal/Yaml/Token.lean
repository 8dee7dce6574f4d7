import Rehearsal.Yaml.Cursor

/-!
# YAML tokens

The pieces of a YAML text: indicators, the begin and end of indented blocks, and names, tags and
scalars with their contents.
-/

namespace Rehearsal.Yaml

/-- How a scalar is written. -/
inductive Style where
  | plain
  | singleQuoted
  | doubleQuoted
  | literal
  | folded
  deriving DecidableEq

/-- A tag or a part of one: escapes may stand for any bytes, also for such that are no text. -/
abbrev Tag := List UInt8

/-- The tag that a text spells. -/
def Tag.ofText (s : String) : Tag := Text.utf8 s.toList

/-- A part of a tag up to a zero byte, which ends it. -/
def Tag.upToZero (t : Tag) : Tag := t.takeWhile (· ≠ 0)

/-- What a token is. -/
inductive Piece where
  | streamStart
  | streamEnd
  | version (major minor : Nat)
  | tagShorthand (handle : String) (expansion : Tag)
  | documentStart
  | documentEnd
  | blockListStart
  | blockMapStart
  | blockEnd
  | flowListStart
  | flowListEnd
  | flowMapStart
  | flowMapEnd
  | blockEntry
  | flowEntry
  | key
  | value
  | alias (name : String)
  | anchor (name : String)
  | tag (handle : String) (suffix : Tag)
  | scalar (text : String) (style : Style)

/-- A token with its place. -/
structure Token where
  piece : Piece
  start : Mark
  stop : Mark

/-! ## Contents of single tokens -/

/-- Line breaks between two parts of a scalar: the first one and all others. -/
structure Folding where
  first : List Char
  others : List Char

/-- What line breaks between two parts of a scalar count for: a single one is a blank, of several
the first one is left out. -/
def Folding.text (f : Folding) : List Char :=
  if f.first = ['\n'] then (if f.others.isEmpty then [' '] else f.others) else f.first ++ f.others

/-- What separates two parts of a scalar. -/
inductive Gap where
  | blanks (s : List Char)
  | breaks (f : Folding)

/-- What a gap counts for. -/
def Gap.text : Gap → List Char
  | .blanks s => s
  | .breaks f => f.text

/-- A gap with one more blank; after a line break blanks count for nothing. -/
def Gap.addBlank (x : Char) : Gap → Gap
  | .blanks s => .blanks (s ++ [x])
  | .breaks f => .breaks f

/-- A gap with one more line break. -/
def Gap.addBreak (x : List Char) : Gap → Gap
  | .blanks _ => .breaks ⟨x, []⟩
  | .breaks f => .breaks { f with others := f.others ++ x }

/-- Whether a gap holds a line break. -/
def Gap.isBreak : Gap → Bool
  | .blanks _ => false
  | .breaks _ => true

/-- The gap at a cursor. With a least column for what continues the scalar, a tab that stands
before it after a line break is at fault. -/
def gapAt (fuel : Nat) (least : Option Int) (g : Gap) (c : Cursor) : Except Cursor (Gap × Cursor) :=
  match fuel with
  | 0 => .ok (g, c)
  | fuel + 1 =>
    match c.break? with
    | some (x, c) => gapAt fuel least (g.addBreak x) c
    | none =>
      match c.rest with
      | [] => .ok (g, c)
      | x :: _ =>
        if !isSpace x then .ok (g, c)
        else if x = '\t' && g.isBreak && (least.map fun n => decide ((c.mark.column : Int) < n)) = some true
        then .error c
        else gapAt fuel least (g.addBlank x) c.skip

/-- How many characters of a plain scalar stand at the beginning of a text, and whether the text
goes on with a colon that has no place there. -/
def plainRun (inFlow : Bool) : List Char → List Char × Bool
  | [] => ([], false)
  | c :: r =>
    if isSpace c || isBreak c then ([], false)
    else
      let indicator (xs : List Char) : Bool :=
        match r with
        | [] => false
        | d :: _ => xs.contains d
      if inFlow && c = ':' && indicator [',', '?', '[', ']', '\x7b', '\x7d'] then ([], true)
      else if c = ':' && atBlank r then ([], false)
      else if inFlow && [',', '[', ']', '\x7b', '\x7d'].contains c then ([], false)
      else
        let (taken, bad) := plainRun inFlow r
        (c :: taken, bad)

/-- A plain scalar with the text read so far, newest character first, and the gap after it; gives
the text, its end, the cursor, and whether a line break follows the text. -/
def plainFrom (fuel : Nat) (inFlow : Bool) (least : Int) (start : Mark) (text : List Char) (g : Gap)
    (stop : Mark) (c : Cursor) : Except Problem (List Char × Mark × Bool × Cursor) :=
  let done : List Char × Mark × Bool × Cursor := (text.reverse, stop, g.isBreak, c)
  match fuel with
  | 0 => .ok done
  | fuel + 1 =>
    if c.atDocumentMark || c.sees '#' then .ok done
    else
      match plainRun inFlow c.rest with
      | (run, true) =>
        .error ((c.skipN run.length).problem "while scanning a plain scalar" start "found unexpected ':'")
      | ([], false) => .ok done
      | (run, false) =>
        let text := run.reverse ++ (g.text.reverse ++ text)
        let c := c.skipN run.length
        match gapAt (c.rest.length + 1) (some least) (.blanks []) c with
        | .error c =>
          .error (c.problem "while scanning a plain scalar" start
            "found a tab character that violates indentation")
        | .ok (g, d) =>
          if d.rest.length = c.rest.length then .ok (text.reverse, c.mark, false, c)
          else if !inFlow && (d.mark.column : Int) < least then .ok (text.reverse, c.mark, g.isBreak, d)
          else plainFrom fuel inFlow least start text g c.mark d

/-- A plain scalar at a cursor. -/
def plainAt (inFlow : Bool) (least : Int) (c : Cursor) :
    Except Problem (List Char × Mark × Bool × Cursor) :=
  plainFrom (c.rest.length + 1) inFlow least c.mark [] (.blanks []) c.mark c

/-- The character of an escape with one letter. -/
def escaped? (c : Char) : Option Char :=
  match c with
  | '0' => some (Char.ofNat 0)
  | 'a' => some (Char.ofNat 7)
  | 'b' => some (Char.ofNat 8)
  | 't' => some '\t'
  | '\t' => some '\t'
  | 'n' => some '\n'
  | 'v' => some (Char.ofNat 11)
  | 'f' => some (Char.ofNat 12)
  | 'r' => some '\r'
  | 'e' => some (Char.ofNat 27)
  | ' ' => some ' '
  | '"' => some '"'
  | '/' => some '/'
  | '\\' => some '\\'
  | 'N' => some (Char.ofNat 0x85)
  | '_' => some (Char.ofNat 0xA0)
  | 'L' => some (Char.ofNat 0x2028)
  | 'P' => some (Char.ofNat 0x2029)
  | _ => none

/-- The number of digits of an escape that gives a code point. -/
def escapeDigits? (c : Char) : Option Nat :=
  match c with
  | 'x' => some 2
  | 'u' => some 4
  | 'U' => some 8
  | _ => none

/-- The value of a hexadecimal digit. -/
def hexDigit? (c : Char) : Option Nat :=
  if '0' ≤ c ∧ c ≤ '9' then some (c.toNat - 48)
  else if 'a' ≤ c ∧ c ≤ 'f' then some (c.toNat - 87)
  else if 'A' ≤ c ∧ c ≤ 'F' then some (c.toNat - 55)
  else none

/-- A number of so many hexadecimal digits at a cursor; `none` if one is missing. -/
def hexAt (c : Cursor) (digits : Nat) : Option Nat :=
  let ds := c.rest.take digits
  if ds.length < digits then none
  else ds.foldlM (fun n d => (hexDigit? d).map (16 * n + ·)) 0

/-- The part of a quoted scalar up to a blank, a line break or the closing quote: its characters,
newest first, the cursor, and whether it ends with a line break that was escaped. -/
def quotedRun (fuel : Nat) (single : Bool) (start : Mark) (text : List Char) (c : Cursor) :
    Except Problem (List Char × Bool × Cursor) :=
  match fuel with
  | 0 => .ok (text, false, c)
  | fuel + 1 =>
    let problem (c : Cursor) (what : String) : Problem :=
      c.problem "while parsing a quoted scalar" start what
    if atBlank c.rest then .ok (text, false, c)
    else
      match single, c.rest with
      | _, [] => .ok (text, false, c)
      | true, '\'' :: '\'' :: _ => quotedRun fuel single start ('\'' :: text) (c.skipN 2)
      | true, '\'' :: _ => .ok (text, false, c)
      | true, x :: _ => quotedRun fuel single start (x :: text) c.skip
      | false, '"' :: _ => .ok (text, false, c)
      | false, '\\' :: r =>
        match c.skip.break?, r with
        | some (_, c), _ => .ok (text, true, c)
        | none, [] => .error (problem c "found unknown escape character")
        | none, x :: _ =>
          match escaped? x, escapeDigits? x with
          | some y, _ => quotedRun fuel single start (y :: text) (c.skipN 2)
          | none, none => .error (problem c "found unknown escape character")
          | none, some digits =>
            let c := c.skipN 2
            match hexAt c digits with
            | none => .error (problem c "did not find expected hexadecimal number")
            | some n =>
              if (0xD800 ≤ n ∧ n ≤ 0xDFFF) ∨ 0x10FFFF < n then
                .error (problem c "found invalid Unicode character escape code")
              else quotedRun fuel single start (Char.ofNat n :: text) (c.skipN digits)
      | false, x :: _ => quotedRun fuel single start (x :: text) c.skip

/-- A quoted scalar from after its opening quote, with the text read so far, newest first. -/
def quotedFrom (fuel : Nat) (single : Bool) (start : Mark) (text : List Char) (c : Cursor) :
    Except Problem (List Char × Cursor) :=
  let problem (what : String) : Problem := c.problem "while scanning a quoted scalar" start what
  match fuel with
  | 0 => .error (problem "found unexpected end of stream")
  | fuel + 1 =>
    if c.atDocumentMark then .error (problem "found unexpected document indicator")
    else if c.rest.isEmpty then .error (problem "found unexpected end of stream")
    else
      match quotedRun (c.rest.length + 1) single start text c with
      | .error p => .error p
      | .ok (text, brokenLine, c) =>
        if c.sees (if single then '\'' else '"') then .ok (text.reverse, c.skip)
        else
          let g : Gap := if brokenLine then .breaks ⟨[], []⟩ else .blanks []
          match gapAt (c.rest.length + 1) none g c with
          | .error c => .error (c.problem "while scanning a quoted scalar" start "found unexpected end of stream")
          | .ok (g, c) => quotedFrom fuel single start (g.text.reverse ++ text) c

/-- A quoted scalar at a cursor. -/
def quotedAt (single : Bool) (c : Cursor) : Except Problem (List Char × Cursor) :=
  quotedFrom (c.rest.length + 1) single c.mark [] c.skip

/-! ## Block scalars -/

/-- The empty lines before a line of a block scalar: their breaks, where they end, the widest
indentation seen, and the cursor. An indentation of zero is not yet known. -/
def blankLines (fuel : Nat) (indent : Nat) (start : Mark) (breaks : List Char) (widest : Nat) (stop : Mark)
    (c : Cursor) : Except Problem (List Char × Mark × Nat × Cursor) :=
  match fuel with
  | 0 => .ok (breaks, stop, widest, c)
  | fuel + 1 =>
    let blanks := c.rest.takeWhile (· = ' ')
    let width := if indent = 0 then blanks.length else min blanks.length (indent - c.mark.column)
    let c := c.skipN width
    let widest := max widest c.mark.column
    if (indent = 0 || c.mark.column < indent) && c.sees '\t' then
      .error (c.problem "while scanning a block scalar" start
        "found a tab character where an indentation space is expected")
    else
      match c.break? with
      | none => .ok (breaks, stop, widest, c)
      | some (x, c) => blankLines fuel indent start (breaks ++ x) widest c.mark c

/-- What is known after the empty lines before a line of a block scalar. -/
structure BlockLines where
  indent : Nat
  breaks : List Char
  stop : Mark
  cursor : Cursor

/-- The empty lines before a line of a block scalar; an indentation that is not yet known is the
widest one, and more than that of the enclosing block. -/
def blockLines (indent : Nat) (enclosing : Int) (start : Mark) (c : Cursor) :
    Except Problem BlockLines := do
  let (breaks, stop, widest, c) ← blankLines (c.rest.length + 1) indent start [] 0 c.mark c
  let found := if indent = 0 then max (max widest (enclosing + 1).toNat) 1 else indent
  return ⟨found, breaks, stop, c⟩

/-- The lines of a block scalar: the text so far, newest first, and the break before the line. -/
def blockFrom (fuel : Nat) (literal : Bool) (enclosing : Int) (start : Mark) (text : List Char)
    (before : List Char) (afterBlank : Bool) (l : BlockLines) :
    Except Problem (List Char × List Char × BlockLines) :=
  match fuel with
  | 0 => .ok (text, before, l)
  | fuel + 1 =>
    let c := l.cursor
    if c.mark.column ≠ l.indent ∨ c.rest.isEmpty then .ok (text, before, l)
    else
      let startsBlank : Bool :=
        match c.rest with
        | x :: _ => isSpace x
        | [] => false
      let joint :=
        if !literal && before = ['\n'] && !afterBlank && !startsBlank then
          (if l.breaks.isEmpty then [' '] else [])
        else before
      let (line, c) := c.span fun _ => true
      let text := line.reverse ++ (l.breaks.reverse ++ (joint.reverse ++ text))
      let (before, c) := (c.break?).getD ([], c)
      match blockLines l.indent enclosing start c with
      | .error p => .error p
      | .ok l => blockFrom fuel literal enclosing start text before startsBlank l

/-- What becomes of the line breaks at the end of a block scalar. -/
inductive Chomping where
  | strip
  | clip
  | keep
  deriving DecidableEq

/-- The header of a block scalar: what becomes of its last breaks, and its indentation if given. -/
def blockHeader (start : Mark) (c : Cursor) : Except Problem (Chomping × Nat × Cursor) :=
  let chomp (c : Cursor) : Option (Chomping × Cursor) :=
    match c.rest with
    | '+' :: _ => some (.keep, c.skip)
    | '-' :: _ => some (.strip, c.skip)
    | _ => none
  let digit (c : Cursor) : Except Problem (Nat × Cursor) :=
    match c.rest with
    | x :: _ =>
      if x = '0' then
        .error (c.problem "while scanning a block scalar" start "found an indentation indicator equal to 0")
      else if x.isDigit then .ok (x.toNat - 48, c.skip)
      else .ok (0, c)
    | [] => .ok (0, c)
  match chomp c with
  | some (ch, c) => do
    let (n, c) ← digit c
    return (ch, n, c)
  | none => do
    let (n, c) ← digit c
    if n = 0 then return (.clip, 0, c)
    else
      match chomp c with
      | some (ch, c) => return (ch, n, c)
      | none => return (.clip, n, c)

/-- The cursor after blanks and a comment, which must end the line, and after the line break. -/
def restOfLine (context : String) (start : Mark) (c : Cursor) : Except Problem Cursor :=
  let c := c.skipWhile isSpace
  let c := if c.sees '#' then c.skipWhile fun _ => true else c
  if !atBreak c.rest then .error (c.problem context start "did not find expected comment or line break")
  else .ok c.skipBreak

/-- A block scalar at a cursor, in a block of some indentation: its text, its end, the cursor. -/
def blockAt (literal : Bool) (enclosing : Int) (c : Cursor) :
    Except Problem (List Char × Mark × Cursor) := do
  let start := c.mark
  let (chomping, increment, c) ← blockHeader start c.skip
  let c ← restOfLine "while scanning a block scalar" start c
  let indent := if increment = 0 then 0 else (max enclosing 0).toNat + increment
  let l ← blockLines indent enclosing start c
  let (text, before, l) ← blockFrom (c.rest.length + 1) literal enclosing start [] [] false l
  let tail :=
    (if chomping = .strip then [] else before) ++ (if chomping = .keep then l.breaks else [])
  return (text.reverse ++ tail, l.stop, l.cursor)

/-! ## Names, tags and directives -/

/-- The name of an anchor or an alias, after its indicator. -/
def nameAt (context : String) (start : Mark) (c : Cursor) : Except Problem (String × Cursor) :=
  let (name, c) := c.span isNameChar
  if name.isEmpty || !(atBlank c.rest || c.seesAny ['?', ':', ',', ']', '\x7d', '%', '@', (Char.ofNat 96)])
  then .error (c.problem context start "did not find expected alphabetic or numeric character")
  else .ok (String.ofList name, c)

/-- A character of tags; in angle brackets also brackets and commas. -/
def isTagChar (verbatim : Bool) (c : Char) : Bool :=
  isNameChar c || ";/?:@&=+$.!~*'()%".toList.contains c || (verbatim && [',', '[', ']'].contains c)

/-- The number of bytes that a character with a leading byte has. -/
def leadingWidth (octet : Nat) : Nat :=
  if octet < 0x80 then 1
  else if 0xC0 ≤ octet ∧ octet < 0xE0 then 2
  else if 0xE0 ≤ octet ∧ octet < 0xF0 then 3
  else if 0xF0 ≤ octet ∧ octet < 0xF8 then 4
  else 0

/-- The bytes of a tag; escaped ones are given by two digits, and those of one character must
follow each other. `pending` bytes of a character are still to come. -/
def tagBytes (fuel : Nat) (context : String) (start : Mark) (verbatim : Bool) (bytes : List UInt8)
    (pending : Nat) (c : Cursor) : Except Problem (List UInt8 × Cursor) :=
  match fuel with
  | 0 => .ok (bytes, c)
  | fuel + 1 =>
    let escape : Bool :=
      match c.rest with
      | '%' :: _ => true
      | _ => false
    if pending ≠ 0 || escape then
      match c.rest with
      | '%' :: a :: b :: _ =>
        match hexDigit? a, hexDigit? b with
        | some x, some y =>
          let octet := 16 * x + y
          let width := if pending = 0 then leadingWidth octet else pending
          if pending = 0 && width = 0 then
            .error (c.problem context start "found an incorrect leading UTF-8 octet")
          else if pending ≠ 0 && !(0x80 ≤ octet && octet < 0xC0) then
            .error (c.problem context start "found an incorrect trailing UTF-8 octet")
          else
            tagBytes fuel context start verbatim (bytes ++ [UInt8.ofNat octet]) (width - 1) (c.skipN 3)
        | _, _ => .error (c.problem context start "did not find URI escaped octet")
      | _ => .error (c.problem context start "did not find URI escaped octet")
    else
      match c.rest with
      | x :: _ =>
        if isTagChar verbatim x then
          tagBytes fuel context start verbatim (bytes ++ Text.utf8Char x) 0 c.skip
        else .ok (bytes, c)
      | [] => .ok (bytes, c)

/-- A tag after a part of it that was already read; with none it must not be empty. -/
def tagTextAt (context : String) (start : Mark) (verbatim : Bool) (already : Option (List Char))
    (c : Cursor) : Except Problem (Tag × Cursor) := do
  let (bytes, c') ← tagBytes (c.rest.length + 1) context start verbatim [] 0 c
  if already.isNone && bytes.isEmpty then
    throw (c'.problem context start "did not find expected tag URI")
  return (Text.utf8 (already.getD []) ++ bytes, c')

/-- A tag handle: an exclamation mark, and possibly a name and another one. -/
def handleAt (directive : Bool) (start : Mark) (c : Cursor) : Except Problem (List Char × Cursor) :=
  if !c.sees '!' then
    .error (c.problem (if directive then "while scanning a tag directive" else "while scanning a tag")
      start "did not find expected '!'")
  else
    let (name, c) := c.skip.span isNameChar
    if c.sees '!' then .ok ('!' :: name ++ ['!'], c.skip)
    else if directive && !name.isEmpty then
      .error (c.problem "while parsing a tag directive" start "did not find expected '!'")
    else .ok ('!' :: name, c)

/-- A tag at a cursor: its handle and what follows it. -/
def tagAt (inFlow : Bool) (c : Cursor) : Except Problem (String × Tag × Cursor) := do
  let start := c.mark
  let (handle, suffix, c) ←
    match c.rest with
    | _ :: '<' :: _ => do
      let (suffix, c) ← tagTextAt "while parsing a tag" start true none (c.skipN 2)
      if !c.sees '>' then throw (c.problem "while scanning a tag" start "did not find the expected '>'")
      pure ("", suffix, c.skip)
    | _ => do
      let (handle, c) ← handleAt false start c
      if 2 ≤ handle.length && handle.getLast? = some '!' then do
        let (suffix, c) ← tagTextAt "while parsing a tag" start false none c
        pure (String.ofList handle, suffix, c)
      else do
        let (suffix, c) ← tagTextAt "while parsing a tag" start false (some (handle.drop 1)) c
        pure (if suffix.upToZero.isEmpty then ("", .ofText "!", c) else ("!", suffix, c))
  if !(inFlow && c.sees ',') && !atBlank c.rest then
    throw (c.problem "while scanning a tag" start "did not find expected whitespace or line break")
  return (handle, suffix, c)

/-- A number of a version. -/
def versionNumberAt (start : Mark) (c : Cursor) : Except Problem (Nat × Cursor) :=
  let (digits, d) := c.span Char.isDigit
  if digits.isEmpty then
    .error (c.problem "while scanning a %YAML directive" start "did not find expected version number")
  else if 9 < digits.length then
    .error ((c.skipN 9).problem "while scanning a %YAML directive" start
      "found extremely long version number")
  else .ok (digits.foldl (fun n x => 10 * n + (x.toNat - 48)) 0, d)

/-- What a directive says, and where it ends. -/
def directiveAt (c : Cursor) : Except Problem (Piece × Mark × Cursor) := do
  let start := c.mark
  let context := "while scanning a directive"
  let (name, c) := c.skip.span isNameChar
  if name.isEmpty then throw (c.problem context start "could not find expected directive name")
  if !atBlank c.rest then throw (c.problem context start "found unexpected non-alphabetical character")
  let (piece, c) ←
    if name = "YAML".toList then do
      let (major, c) ← versionNumberAt start (c.skipWhile isSpace)
      if !c.sees '.' then
        throw (c.problem "while scanning a %YAML directive" start
          "did not find expected digit or '.' character")
      let (minor, c) ← versionNumberAt start c.skip
      pure (Piece.version major minor, c)
    else if name = "TAG".toList then do
      let context := "while scanning a %TAG directive"
      let (handle, c) ← handleAt true start (c.skipWhile isSpace)
      if !(c.sees ' ' || c.sees '\t') then
        throw (c.problem context start "did not find expected whitespace")
      let (expansion, c) ← tagTextAt "while parsing a %TAG directive" start true none (c.skipWhile isSpace)
      if !atBlank c.rest then
        throw (c.problem context start "did not find expected whitespace or line break")
      pure (Piece.tagShorthand (String.ofList handle) expansion, c)
    else throw (c.problem context start "found unknown directive name")
  let stop := c.mark
  let c ← restOfLine context start c
  return (piece, stop, c)

end Rehearsal.Yaml
