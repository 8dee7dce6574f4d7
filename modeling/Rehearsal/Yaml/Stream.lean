import Rehearsal.Yaml.Token

/-!
# Token streams

The tokens of a whole text. Indentation and the keys of maps that are written without an indicator
show only later, so a stream is grown step by step with the places where such a key may still
begin; its tokens count from that place on only when a colon follows. `TokenStream.ofText` gives
the tokens that can be told before the first problem.
-/

namespace Rehearsal.Yaml

/-- A place where the key of a map may have begun: the number of its first token, and whether it
must turn out to be one. -/
structure PendingKey where
  number : Nat
  required : Bool
  mark : Mark

/-- A character that may not stand in a text: its place counted in bytes, and that of the first
character that is read together with it. -/
structure Forbidden where
  offset : Nat
  pageStart : Nat

/-- The problem of a character that may not stand in a text. -/
def Forbidden.problem (f : Forbidden) : Problem :=
  ⟨"control characters are not allowed", ⟨0, 0, 0⟩, none, f.offset⟩

/-- A stream while it grows. Tokens stand newest first; there is one level of keys for the block
and one for each open bracket. -/
structure Growth where
  cursor : Cursor
  tokens : List Token
  count : Nat
  indent : Int
  indents : List Int
  key : Option PendingKey
  outerKeys : List (Option PendingKey)
  keyAllowed : Bool
  forbidden : Option Forbidden

namespace Growth

/-- The number of open brackets. -/
def depth (g : Growth) : Nat := g.outerKeys.length

/-- Whether the stream is inside brackets. -/
def inFlow (g : Growth) : Bool := !g.outerKeys.isEmpty

/-- The stream with one more token. -/
def push (g : Growth) (t : Token) : Growth := { g with tokens := t :: g.tokens, count := g.count + 1 }

/-- A list with an element put behind so many of its first ones. -/
def insertAfter (n : Nat) (t : Token) (ts : List Token) : List Token := ts.take n ++ t :: ts.drop n

/-- The stream with a token put at a number. -/
def insert (g : Growth) (number : Nat) (t : Token) : Growth :=
  { g with tokens := insertAfter (g.count - number) t g.tokens, count := g.count + 1 }

/-- A token of some characters that end no line. -/
def takeToken (g : Growth) (piece : Piece) (width : Nat) : Growth :=
  let c := g.cursor.skipN width
  { g.push ⟨piece, g.cursor.mark, c.mark⟩ with cursor := c }

/-- The problem of a key without its colon. -/
def lostKey (g : Growth) (k : PendingKey) : Problem :=
  g.cursor.problem "while scanning a simple key" k.mark "could not find expected ':'"

/-- The stream without a pending key, which must not be required. -/
def dropKey (g : Growth) : Except Problem Growth :=
  match g.key with
  | some k => if k.required then .error (g.lostKey k) else .ok { g with key := none }
  | none => .ok g

/-- Whether a key is too long to be one: it ends with its line, and after 1024 bytes. -/
def isStale (g : Growth) (k : PendingKey) : Bool :=
  k.mark.line < g.cursor.mark.line || k.mark.index + 1024 < g.cursor.mark.index

/-- A level of keys without a key that has become too long. -/
def freshKey (g : Growth) : Option PendingKey → Except Problem (Option PendingKey)
  | none => .ok none
  | some k =>
    if g.isStale k then (if k.required then .error (g.lostKey k) else .ok none) else .ok (some k)

/-- The stream without keys that have become too long, outermost first. -/
def dropStale (g : Growth) : Except Problem Growth := do
  let outer ← g.outerKeys.reverse.mapM g.freshKey
  let key ← g.freshKey g.key
  return { g with outerKeys := outer.reverse, key }

/-- The stream with a key that may begin here. -/
def saveKey (g : Growth) : Except Problem Growth :=
  if g.keyAllowed then do
    let g ← g.dropKey
    let required := !g.inFlow && g.indent = (g.cursor.mark.column : Int)
    return { g with key := some ⟨g.count, required, g.cursor.mark⟩ }
  else .ok g

/-- The stream with a new block if a column is further in than the current one; its first token is
put at a number, or last. -/
def openBlock (g : Growth) (number : Option Nat) (piece : Piece) (mark : Mark) : Growth :=
  if g.inFlow then g
  else if g.indent < (mark.column : Int) then
    let t : Token := ⟨piece, mark, mark⟩
    let g := match number with
      | some n => g.insert n t
      | none => g.push t
    { g with indents := g.indent :: g.indents, indent := mark.column }
  else g

/-- The stream without the blocks of a list that are further in than a column. -/
def closeBlocksOf (column : Int) (g : Growth) : List Int → Growth
  | [] => g
  | outer :: r =>
    if column < g.indent then
      closeBlocksOf column
        { g.push ⟨.blockEnd, g.cursor.mark, g.cursor.mark⟩ with indent := outer, indents := r } r
    else g

/-- The stream without the blocks that are further in than a column. -/
def closeBlocks (g : Growth) (column : Int) : Growth :=
  if g.inFlow then g else closeBlocksOf column g g.indents

/-- The cursor after blanks, comments and line breaks. A tab counts as a blank only where no key
may begin. After a line break, a key may begin again. One byte order mark may begin each line. -/
def skipToToken (fuel : Nat) (inFlow keyAllowed : Bool) (c : Cursor) : Bool × Cursor :=
  match fuel with
  | 0 => (keyAllowed, c)
  | fuel + 1 =>
    let c := c.skipByteOrderMark.skipWhile fun x => x = ' ' || ((inFlow || !keyAllowed) && x = '\t')
    let c := if c.sees '#' then c.skipWhile fun _ => true else c
    match c.break? with
    | some (_, c) => skipToToken fuel inFlow (keyAllowed || !inFlow) c
    | none => (keyAllowed, c)

/-- The stream, unless so many characters cannot be read. -/
def ahead (g : Growth) (count : Nat) : Except Problem Growth :=
  match g.forbidden with
  | none => .ok g
  | some f => if f.pageStart < (g.cursor.skipN count).mark.index then .error f.problem else .ok g

/-- A problem at the cursor that has no context. -/
def misplaced (g : Growth) (text : String) : Problem := { text, mark := g.cursor.mark, context := none }

/-! ## One step for each kind of token -/

/-- The end of the text. -/
def addEnd (g : Growth) : Except Problem Growth := do
  let m := g.cursor.mark
  let m : Mark := if m.column = 0 then m else ⟨m.index, m.line + 1, 0⟩
  let g := { g with cursor := { g.cursor with mark := m } }.closeBlocks (-1)
  let g ← g.dropKey
  return { g with keyAllowed := false }.push ⟨.streamEnd, m, m⟩

/-- A directive. -/
def addDirective (g : Growth) : Except Problem Growth := do
  let g ← (g.closeBlocks (-1)).dropKey
  let (piece, stop, c) ← directiveAt g.cursor
  return { g.push ⟨piece, g.cursor.mark, stop⟩ with cursor := c, keyAllowed := false }

/-- The beginning or the end of a document. -/
def addDocumentMark (g : Growth) (piece : Piece) : Except Problem Growth := do
  let g ← (g.closeBlocks (-1)).dropKey
  return { g with keyAllowed := false }.takeToken piece 3

/-- An opening bracket. -/
def addOpening (g : Growth) (piece : Piece) : Except Problem Growth := do
  let g ← g.saveKey
  return { g with outerKeys := g.key :: g.outerKeys, key := none, keyAllowed := true }.takeToken piece 1

/-- A closing bracket. -/
def addClosing (g : Growth) (piece : Piece) : Except Problem Growth := do
  let g ← g.dropKey
  let g := match g.outerKeys with
    | [] => g
    | k :: r => { g with key := k, outerKeys := r }
  return { g with keyAllowed := false }.takeToken piece 1

/-- A comma between brackets. -/
def addFlowEntry (g : Growth) : Except Problem Growth := do
  let g ← g.dropKey
  return { g with keyAllowed := true }.takeToken .flowEntry 1

/-- The dash of an item. -/
def addBlockEntry (g : Growth) : Except Problem Growth := do
  if !g.inFlow && !g.keyAllowed then
    throw (g.misplaced "block sequence entries are not allowed in this context")
  let g ← (g.openBlock none .blockListStart g.cursor.mark).dropKey
  return { g with keyAllowed := true }.takeToken .blockEntry 1

/-- The question mark of a key. -/
def addKey (g : Growth) : Except Problem Growth := do
  if !g.inFlow && !g.keyAllowed then
    throw (g.misplaced "mapping keys are not allowed in this context")
  let g ← (g.openBlock none .blockMapStart g.cursor.mark).dropKey
  return { g with keyAllowed := !g.inFlow }.takeToken .key 1

/-- The colon of a value. If a key may have begun before, it did. -/
def addValue (g : Growth) : Except Problem Growth := do
  match g.key with
  | some k =>
    let g := g.insert k.number ⟨.key, k.mark, k.mark⟩
    let g := g.openBlock (some k.number) .blockMapStart k.mark
    return { g with key := none, keyAllowed := false }.takeToken .value 1
  | none =>
    if !g.inFlow && !g.keyAllowed then
      throw (g.misplaced "mapping values are not allowed in this context")
    let g := g.openBlock none .blockMapStart g.cursor.mark
    return { g with keyAllowed := !g.inFlow }.takeToken .value 1

/-- An alias or an anchor. -/
def addName (g : Growth) (context : String) (piece : String → Piece) : Except Problem Growth := do
  let g ← g.saveKey
  let start := g.cursor.mark
  let (name, c) ← nameAt context start g.cursor.skip
  return { g.push ⟨piece name, start, c.mark⟩ with cursor := c, keyAllowed := false }

/-- A tag. -/
def addTag (g : Growth) : Except Problem Growth := do
  let g ← g.saveKey
  let (handle, suffix, c) ← tagAt g.inFlow g.cursor
  return { g.push ⟨.tag handle suffix, g.cursor.mark, c.mark⟩ with cursor := c, keyAllowed := false }

/-- A block scalar. -/
def addBlockScalar (g : Growth) (literal : Bool) : Except Problem Growth := do
  let g ← g.dropKey
  let (text, stop, c) ← blockAt literal g.indent g.cursor
  let style : Style := if literal then .literal else .folded
  return { g.push ⟨.scalar (String.ofList text) style, g.cursor.mark, stop⟩ with
    cursor := c, keyAllowed := true }

/-- A quoted scalar. -/
def addQuoted (g : Growth) (single : Bool) : Except Problem Growth := do
  let g ← g.saveKey
  let (text, c) ← quotedAt single g.cursor
  let style : Style := if single then .singleQuoted else .doubleQuoted
  return { g.push ⟨.scalar (String.ofList text) style, g.cursor.mark, c.mark⟩ with
    cursor := c, keyAllowed := false }

/-- A plain scalar. -/
def addPlain (g : Growth) : Except Problem Growth := do
  let g ← g.saveKey
  let (text, stop, brokenLine, c) ← plainAt g.inFlow (g.indent + 1) g.cursor
  return { g.push ⟨.scalar (String.ofList text) .plain, g.cursor.mark, stop⟩ with
    cursor := c, keyAllowed := brokenLine }

/-- Whether a plain scalar may begin with a text. -/
def startsPlain (inFlow : Bool) : List Char → Bool
  | [] => false
  | c :: r =>
    let indicators := "-?:,[]\x7b\x7d#&*!|>'\"%@".toList ++ [Char.ofNat 96]
    (!isSpace c && !isBreak c && !indicators.contains c) ||
      (c = '-' && !(match r with
        | d :: _ => isSpace d
        | [] => false)) ||
      (!inFlow && (c = '?' || c = ':') && !atBlank r)

/-- The stream with its next tokens, and whether it is complete. -/
def grow (g : Growth) : Except Problem (Growth × Bool) := do
  let (allowed, c) :=
    skipToToken (g.cursor.rest.length + 1) g.inFlow g.keyAllowed g.cursor
  let g ← { g with cursor := c, keyAllowed := allowed }.dropStale
  let g ← g.ahead 4
  let g := g.closeBlocks c.mark.column
  let more (r : Except Problem Growth) : Except Problem (Growth × Bool) := do
    return (← (← (← r).ahead 1).dropStale, false)
  match c.rest with
  | [] => do
    let g ← g.addEnd
    return (g, true)
  | x :: r =>
    if c.mark.column = 0 && x = '%' then more g.addDirective
    else if c.atDocumentMark then
      more (g.addDocumentMark (if x = '-' then .documentStart else .documentEnd))
    else if x = '[' then more (g.addOpening .flowListStart)
    else if x = '\x7b' then more (g.addOpening .flowMapStart)
    else if x = ']' then more (g.addClosing .flowListEnd)
    else if x = '\x7d' then more (g.addClosing .flowMapEnd)
    else if x = ',' then more g.addFlowEntry
    else if x = '-' && atBlank r then more g.addBlockEntry
    else if x = '?' && (g.inFlow || atBlank r) then more g.addKey
    else if x = ':' && (g.inFlow || atBlank r) then more g.addValue
    else if x = '*' then more (g.addName "while scanning an alias" .alias)
    else if x = '&' then more (g.addName "while scanning an anchor" .anchor)
    else if x = '!' then more g.addTag
    else if x = '|' && !g.inFlow then more (g.addBlockScalar true)
    else if x = '>' && !g.inFlow then more (g.addBlockScalar false)
    else if x = '\'' then more (g.addQuoted true)
    else if x = '"' then more (g.addQuoted false)
    else if startsPlain g.inFlow (x :: r) then more g.addPlain
    else
      throw (c.problem "while scanning for the next token" c.mark
        "found character that cannot start any token")

/-- The number of the first token that may still be preceded by one that is not yet known. -/
def settled (g : Growth) : Nat :=
  (g.key :: g.outerKeys).foldl (fun n k =>
    match k with
    | some k => min n k.number
    | none => n) g.count

end Growth

/-- The tokens of a text that can be told, in order, and why there are no more. -/
structure TokenStream where
  tokens : List Token
  problem : Option Problem

/-- The stream of a text from a stage of its growth on; what a problem leaves open is cut off. -/
def TokenStream.from (fuel : Nat) (g : Growth) : TokenStream :=
  match fuel with
  | 0 => ⟨g.tokens.reverse, none⟩
  | fuel + 1 =>
    match g.grow with
    | .error p => ⟨g.tokens.reverse.take g.settled, some p⟩
    | .ok (g, true) => ⟨g.tokens.reverse, none⟩
    | .ok (g, false) => TokenStream.from fuel g

/-- The number of bytes of a text that are read at once. -/
def pageSize : Nat := 16384

/-- The first character that may not stand in a text. A text is read in pages of whole characters;
`pageStart` is where the current one starts and `offset` where the rest of the text does. -/
def forbiddenIn (pageStart offset : Nat) : List Char → Option Forbidden
  | [] => none
  | c :: r =>
    let next := offset + c.utf8Size
    let pageStart := if pageStart + pageSize < next then offset else pageStart
    if isAllowed c then forbiddenIn pageStart next r else some ⟨offset, pageStart⟩

/-- The token stream of a text. -/
def TokenStream.ofText (s : List Char) : TokenStream :=
  let start : Mark := ⟨0, 0, 0⟩
  let forbidden := forbiddenIn 0 0 s
  match forbidden with
  | some ⟨offset, 0⟩ => ⟨[], some (Forbidden.mk offset 0).problem⟩
  | _ =>
    TokenStream.from (2 * s.length + 4)
      { cursor := ⟨s, start⟩
        tokens := [⟨.streamStart, start, start⟩]
        count := 1
        indent := -1
        indents := []
        key := none
        outerKeys := []
        keyAllowed := true
        forbidden }

end Rehearsal.Yaml
