import Rehearsal.Yaml.Stream

/-!
# YAML events

The events of a stream of tokens: documents, lists and maps begin and end, and scalars and aliases
stand between. `Events.ofTokens` follows the grammar; each step takes the place in the grammar from
a stack and gives one event. Where a node is missing, there is an empty scalar.
-/

namespace Rehearsal.Yaml

/-- What a node carries besides its content. -/
structure Properties where
  anchor : Option String
  tag : Option Tag

/-- No anchor and no tag. -/
def Properties.none : Properties := ⟨Option.none, Option.none⟩

/-- What happens. -/
inductive Happening where
  | documentStart
  | documentEnd
  | streamEnd
  | alias (name : String)
  | scalar (properties : Properties) (text : String) (style : Style)
  | listStart (properties : Properties)
  | listEnd
  | mapStart (properties : Properties)
  | mapEnd

/-- An event and its place. -/
structure Event where
  happening : Happening
  mark : Mark

/-- A place in the grammar. Those that follow the opening of a collection know its mark. -/
inductive Station where
  | documentStart (implicit : Bool)
  | documentContent
  | documentEnd
  | blockNode
  | blockListEntry (start : Mark)
  | indentlessListEntry
  | blockMapKey (start : Mark)
  | blockMapValue (start : Mark)
  | flowListEntry (first : Bool) (start : Mark)
  | flowPairKey (start : Mark)
  | flowPairValue (start : Mark)
  | flowPairEnd (start : Mark)
  | flowMapKey (first : Bool) (start : Mark)
  | flowMapValue (empty : Bool) (start : Mark)

/-- The state of the grammar: the tokens left, where to go on, and the tag shorthands. The problem
is why the tokens end. -/
structure Course where
  tokens : List Token
  problem : Problem
  stations : List Station
  shorthands : List (String × Tag)

/-- The tag shorthands that need no directive. -/
def defaultShorthands : List (String × Tag) :=
  [("!", .ofText "!"), ("!!", .ofText "tag:yaml.org,2002:")]

namespace Course

/-- The next token. -/
def peek (p : Course) : Except Problem Token :=
  match p.tokens with
  | t :: _ => .ok t
  | [] => .error p.problem

/-- The state after the next token. -/
def skip (p : Course) : Course := { p with tokens := p.tokens.drop 1 }

/-- The state that goes on at a station. -/
def goOn (p : Course) (s : Station) : Course := { p with stations := s :: p.stations }

/-- An event and the state after it. -/
abbrev Step := Except Problem (Event × Course)

/-- An empty scalar. -/
def emptyScalar (p : Course) (m : Mark) : Step :=
  .ok (⟨.scalar .none "" .plain, m⟩, p)

/-- The directives before a document. -/
def directives (versionSeen : Bool) (p : Course) : List Token → Except Problem Course
  | [] => .error p.problem
  | t :: r =>
    let problem (text : String) : Problem := ⟨text, t.start, none, 0⟩
    match t.piece with
    | .version major minor =>
      if versionSeen then .error (problem "found duplicate %YAML directive")
      else if major ≠ 1 ∨ (minor ≠ 1 ∧ minor ≠ 2) then .error (problem "found incompatible YAML document")
      else directives true { p with tokens := r } r
    | .tagShorthand handle expansion =>
      if p.shorthands.any (·.1 = handle) then .error (problem "found duplicate %TAG directive")
      else directives versionSeen { p with tokens := r, shorthands := p.shorthands ++ [(handle, expansion)] } r
    | _ => .ok { p with tokens := t :: r }

/-- The state with the directives of a document read, and the shorthands that need none. -/
def openDocument (p : Course) : Except Problem Course := do
  let p ← directives false { p with shorthands := [] } p.tokens
  return { p with shorthands := p.shorthands ++ defaultShorthands }

/-- The tag that a handle and a suffix denote. -/
def expandTag (p : Course) (handle : String) (suffix : Tag) : Option Tag :=
  if handle.isEmpty then some suffix.upToZero
  else (p.shorthands.find? (·.1 = handle)).map fun e => e.2.upToZero ++ suffix.upToZero

/-- An anchor, with its end. -/
def anchorAt (p : Course) : Option (String × Course) :=
  match p.tokens with
  | ⟨.anchor name, _, _⟩ :: _ => some (name, p.skip)
  | _ => none

/-- A tag, with its place. -/
def tagTokenAt (p : Course) : Option (String × Tag × Mark × Course) :=
  match p.tokens with
  | ⟨.tag handle suffix, start, _⟩ :: _ => some (handle, suffix, start, p.skip)
  | _ => none

/-- A node. Inside brackets there are no blocks; a value of a block map may be a list that is not
indented. -/
def node (block indentless : Bool) (p : Course) : Step := do
  let first ← p.peek
  match first.piece with
  | .alias name => return (⟨.alias name, first.start⟩, p.skip)
  | _ =>
    let start := first.start
    let (anchor, tagged, p) ←
      match p.anchorAt with
      | some (name, p) => do
        let _ ← p.peek
        match p.tagTokenAt with
        | some (h, s, m, p) => pure (some name, some (h, s, m), p)
        | none => pure (some name, none, p)
      | none =>
        match p.tagTokenAt with
        | some (h, s, m, p) => do
          let _ ← p.peek
          match p.anchorAt with
          | some (name, p) => pure (some name, some (h, s, m), p)
          | none => pure (none, some (h, s, m), p)
        | none => pure (none, none, p)
    let t ← p.peek
    let tag ←
      match tagged with
      | none => pure none
      | some (h, s, m) =>
        match p.expandTag h s with
        | some tag => pure (some tag)
        | none =>
          throw ⟨"found undefined tag handle", m, some ("while parsing a node", start), 0⟩
    let properties : Properties := ⟨anchor, tag⟩
    match t.piece, block, indentless with
    | .blockEntry, _, true => return (⟨.listStart properties, start⟩, p.goOn .indentlessListEntry)
    | .scalar text style, _, _ =>
      return (⟨.scalar properties text style, start⟩, p.skip)
    | .flowListStart, _, _ =>
      return (⟨.listStart properties, start⟩, p.skip.goOn (.flowListEntry true t.start))
    | .flowMapStart, _, _ =>
      return (⟨.mapStart properties, start⟩, p.skip.goOn (.flowMapKey true t.start))
    | .blockListStart, true, _ =>
      return (⟨.listStart properties, start⟩, p.skip.goOn (.blockListEntry t.start))
    | .blockMapStart, true, _ =>
      return (⟨.mapStart properties, start⟩, p.skip.goOn (.blockMapKey t.start))
    | _, _, _ =>
      if anchor.isSome || tag.isSome then
        return (⟨.scalar properties "" .plain, start⟩, p)
      else
        let context := if block then "while parsing a block node" else "while parsing a flow node"
        throw ⟨"did not find expected node content", t.start, some (context, start), 0⟩

/-- The state without ends of documents. -/
def skipDocumentEnds (p : Course) : List Token → Course
  | [] => { p with tokens := [] }
  | t :: r =>
    match t.piece with
    | .documentEnd => skipDocumentEnds p r
    | _ => { p with tokens := t :: r }

/-- The begin of a document, or the end of the stream. A first document may begin without a
mark. -/
def atDocumentStart (implicit : Bool) (p : Course) : Step := do
  let p := if implicit then p else skipDocumentEnds p p.tokens
  let t ← p.peek
  let explicit : Step := do
    let p ← p.openDocument
    let t' ← p.peek
    match t'.piece with
    | .documentStart =>
      return (⟨.documentStart, t.start⟩, (p.skip.goOn .documentEnd).goOn .documentContent)
    | _ => throw ⟨"did not find expected <document start>", t'.start, none, 0⟩
  match t.piece with
  | .streamEnd => return (⟨.streamEnd, t.start⟩, p.skip)
  | .version _ _ => explicit
  | .tagShorthand _ _ => explicit
  | .documentStart => explicit
  | _ =>
    if implicit then
      let p ← p.openDocument
      return (⟨.documentStart, t.start⟩, (p.goOn .documentEnd).goOn .blockNode)
    else explicit

/-- The content of a document that began with a mark. -/
def atDocumentContent (p : Course) : Step := do
  let t ← p.peek
  match t.piece with
  | .version _ _ | .tagShorthand _ _ | .documentStart | .documentEnd | .streamEnd => p.emptyScalar t.start
  | _ => p.node true false

/-- The end of a document. -/
def atDocumentEnd (p : Course) : Step := do
  let t ← p.peek
  let p := p.goOn (.documentStart false)
  match t.piece with
  | .documentEnd => return (⟨.documentEnd, t.start⟩, p.skip)
  | _ => return (⟨.documentEnd, t.start⟩, p)

/-- The node after an indicator at which the grammar goes on at a station, unless one of the
pieces that say that there is none comes next. -/
def nodeOrEmpty (p : Course) (station : Station) (block indentless : Bool) (m : Mark)
    (ends : Piece → Bool) : Step := do
  let t ← p.peek
  if ends t.piece then (p.goOn station).emptyScalar m
  else (p.goOn station).node block indentless

/-- An item of a block list, or its end. -/
def atBlockListEntry (start : Mark) (p : Course) : Step := do
  let t ← p.peek
  match t.piece with
  | .blockEntry =>
    p.skip.nodeOrEmpty (.blockListEntry start) true false t.stop fun x =>
      match x with
      | .blockEntry | .blockEnd => true
      | _ => false
  | .blockEnd => return (⟨.listEnd, t.start⟩, p.skip)
  | _ =>
    throw ⟨"did not find expected '-' indicator", t.start, some ("while parsing a block collection", start), 0⟩

/-- An item of a list that is not indented, or its end. -/
def atIndentlessListEntry (p : Course) : Step := do
  let t ← p.peek
  match t.piece with
  | .blockEntry =>
    p.skip.nodeOrEmpty .indentlessListEntry true false t.stop fun x =>
      match x with
      | .blockEntry | .key | .value | .blockEnd => true
      | _ => false
  | _ => return (⟨.listEnd, t.start⟩, p)

/-- Whether a part of an entry of a block map is missing before a piece. -/
def endsMapPart : Piece → Bool
  | .key | .value | .blockEnd => true
  | _ => false

/-- A key of a block map, or its end. -/
def atBlockMapKey (start : Mark) (p : Course) : Step := do
  let t ← p.peek
  match t.piece with
  | .key => p.skip.nodeOrEmpty (.blockMapValue start) true true t.stop endsMapPart
  | .blockEnd => return (⟨.mapEnd, t.start⟩, p.skip)
  | _ => throw ⟨"did not find expected key", t.start, some ("while parsing a block mapping", start), 0⟩

/-- A value of a block map. -/
def atBlockMapValue (start : Mark) (p : Course) : Step := do
  let t ← p.peek
  match t.piece with
  | .value => p.skip.nodeOrEmpty (.blockMapKey start) true true t.stop endsMapPart
  | _ => (p.goOn (.blockMapKey start)).emptyScalar t.start

/-- The state after the comma before an entry between brackets, if it is not the first one. -/
def afterComma (first : Bool) (problem : Mark → Problem) (p : Course) : Except Problem Course := do
  let t ← p.peek
  if first then return p
  else
    match t.piece with
    | .flowEntry => return p.skip
    | _ => throw (problem t.start)

/-- An item of a list in brackets, or its end. A key makes the item a map with one entry. -/
def atFlowListEntry (first : Bool) (start : Mark) (p : Course) : Step := do
  let t ← p.peek
  match t.piece with
  | .flowListEnd => return (⟨.listEnd, t.start⟩, p.skip)
  | _ =>
    let p ← p.afterComma first fun m =>
      ⟨"did not find expected ',' or ']'", m, some ("while parsing a flow sequence", start), 0⟩
    let t ← p.peek
    match t.piece with
    | .key => return (⟨.mapStart .none, t.start⟩, p.skip.goOn (.flowPairKey start))
    | .flowListEnd => return (⟨.listEnd, t.start⟩, p.skip)
    | _ => (p.goOn (.flowListEntry false start)).node false false

/-- The key of an item that is a map. If it is missing, what stands in its place is left out. -/
def atFlowPairKey (start : Mark) (p : Course) : Step := do
  let t ← p.peek
  match t.piece with
  | .value | .flowEntry | .flowListEnd => (p.skip.goOn (.flowPairValue start)).emptyScalar t.stop
  | _ => (p.goOn (.flowPairValue start)).node false false

/-- The value of an item that is a map. -/
def atFlowPairValue (start : Mark) (p : Course) : Step := do
  let t ← p.peek
  match t.piece with
  | .value =>
    let p := p.skip
    let t ← p.peek
    match t.piece with
    | .flowEntry | .flowListEnd => (p.goOn (.flowPairEnd start)).emptyScalar t.start
    | _ => (p.goOn (.flowPairEnd start)).node false false
  | _ => (p.goOn (.flowPairEnd start)).emptyScalar t.start

/-- The end of an item that is a map. -/
def atFlowPairEnd (start : Mark) (p : Course) : Step := do
  let t ← p.peek
  return (⟨.mapEnd, t.start⟩, p.goOn (.flowListEntry false start))

/-- Whether a part of an entry between braces is missing before a piece. -/
def endsFlowPart : Piece → Bool
  | .value | .flowEntry | .flowMapEnd => true
  | _ => false

/-- A key of a map in braces, or its end. -/
def atFlowMapKey (first : Bool) (start : Mark) (p : Course) : Step := do
  let t ← p.peek
  match t.piece with
  | .flowMapEnd => return (⟨.mapEnd, t.start⟩, p.skip)
  | _ =>
    let p ← p.afterComma first fun m =>
      ⟨"did not find expected ',' or '\x7d'", m, some ("while parsing a flow mapping", start), 0⟩
    let t ← p.peek
    match t.piece with
    | .key =>
      let p := p.skip
      let t ← p.peek
      p.nodeOrEmpty (.flowMapValue false start) false false t.start endsFlowPart
    | .flowMapEnd => return (⟨.mapEnd, t.start⟩, p.skip)
    | _ => (p.goOn (.flowMapValue true start)).node false false

/-- A value of a map in braces. -/
def atFlowMapValue (empty : Bool) (start : Mark) (p : Course) : Step := do
  let t ← p.peek
  let p' := p.goOn (.flowMapKey false start)
  if empty then p'.emptyScalar t.start
  else
    match t.piece with
    | .value =>
      let p := p.skip
      let t ← p.peek
      p.nodeOrEmpty (.flowMapKey false start) false false t.start fun x =>
        match x with
        | .flowEntry | .flowMapEnd => true
        | _ => false
    | _ => p'.emptyScalar t.start

/-- The next event. -/
def step (p : Course) : Option Step :=
  match p.stations with
  | [] => none
  | s :: rest =>
    let p := { p with stations := rest }
    some <| match s with
      | .documentStart implicit => p.atDocumentStart implicit
      | .documentContent => p.atDocumentContent
      | .documentEnd => p.atDocumentEnd
      | .blockNode => p.node true false
      | .blockListEntry start => p.atBlockListEntry start
      | .indentlessListEntry => p.atIndentlessListEntry
      | .blockMapKey start => p.atBlockMapKey start
      | .blockMapValue start => p.atBlockMapValue start
      | .flowListEntry first start => p.atFlowListEntry first start
      | .flowPairKey start => p.atFlowPairKey start
      | .flowPairValue start => p.atFlowPairValue start
      | .flowPairEnd start => p.atFlowPairEnd start
      | .flowMapKey first start => p.atFlowMapKey first start
      | .flowMapValue empty start => p.atFlowMapValue empty start

/-- The events from a state on, and why there are no more. -/
def run (fuel : Nat) (p : Course) : List Event × Option Problem :=
  match fuel with
  | 0 => ([], none)
  | fuel + 1 =>
    match p.step with
    | none => ([], none)
    | some (.error problem) => ([], some problem)
    | some (.ok (e, p)) =>
      let (es, problem) := p.run fuel
      (e :: es, problem)

end Course

/-- The events of a text in order, and why there are no more. -/
structure Events where
  list : List Event
  problem : Option Problem

/-- The events of a stream of tokens. -/
def Events.ofTokens (t : TokenStream) : Events :=
  let missing : Problem := ⟨"did not find expected <stream-start>", ⟨0, 0, 0⟩, none, 0⟩
  let (es, problem) :=
    match t.tokens, t.problem with
    | [], some p => ([], some p)
    | _ :: rest, p =>
      Course.run (4 * rest.length + 16) ⟨rest, p.getD missing, [.documentStart true], []⟩
    | [], none => ([], some missing)
  ⟨es, problem⟩

/-- The events of a text. -/
def Events.ofText (s : List Char) : Events := .ofTokens (.ofText s)

end Rehearsal.Yaml
