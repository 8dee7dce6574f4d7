import Rehearsal.Yaml.Event
import Rehearsal.Yaml.Scalar

/-!
# YAML documents

The nodes of a document as a tree. Where the events end too early, the tree holds a cut, so that a
reader who walks it in order meets the faults of the text and those of its own in the order in
which they stand. An alias names its anchor by a number, and the tree may lead back to itself.
-/

namespace Rehearsal.Yaml

/-- A part of a document. -/
inductive Node where
  /-- The content of a document without any. -/
  | void (mark : Mark)
  | scalar (scalar : Scalar) (mark : Mark)
  | list (tag : Option Tag) (items : List Node) (mark : Mark)
  | map (tag : Option Tag) (entries : List (Node × Node)) (mark : Mark)
  | alias (anchor : Nat) (mark : Mark)
  /-- The place where the events end. -/
  | cut

/-- The place of a node. -/
def Node.mark : Node → Mark
  | .void m => m
  | .scalar _ m => m
  | .list _ _ m => m
  | .map _ _ m => m
  | .alias _ m => m
  | .cut => ⟨0, 0, 0⟩

mutual

/-- Whether a node holds no cut. -/
def Node.isWhole : Node → Bool
  | .list _ items _ => itemsWhole items
  | .map _ entries _ => entriesWhole entries
  | .cut => false
  | _ => true

/-- Whether nodes hold no cut. -/
def itemsWhole : List Node → Bool
  | [] => true
  | n :: r => n.isWhole && itemsWhole r

/-- Whether entries hold no cut. -/
def entriesWhole : List (Node × Node) → Bool
  | [] => true
  | (k, v) :: r => k.isWhole && v.isWhole && entriesWhole r

end

/-- A collection whose end has not been seen: its parts, newest first, and the number of events
before it. -/
structure Open where
  isMap : Bool
  tag : Option Tag
  anchor : Option Nat
  order : Nat
  mark : Mark
  parts : List Node

/-- Parts in pairs; a last key without a value has a cut for its value. -/
def pairs : List Node → List (Node × Node)
  | [] => []
  | [k] => [(k, .cut)]
  | k :: v :: r => (k, v) :: pairs r

/-- The node of a collection. -/
def Open.close (o : Open) : Node :=
  let parts := o.parts.reverse
  if o.isMap then .map o.tag (pairs parts) o.mark else .list o.tag parts o.mark

/-- The node of a collection that is cut. -/
def Open.cutOff (o : Open) (inner : Option Node) : Node :=
  let parts := (inner.getD .cut :: o.parts).reverse
  if o.isMap then .map o.tag (pairs parts) o.mark else .list o.tag parts o.mark

/-- Why nothing more can be read from a document. -/
inductive Ending where
  | problem (p : Problem)
  | unknownAnchor (mark : Mark)
  | endOfEvents

/-- A document while its events are read. -/
structure Building where
  opened : List Open
  root : Option Node
  names : List (String × Nat)
  anchors : List (Nat × Nat × Node)
  events : Nat

namespace Building

/-- The number for the anchor of a node: how many names were given before. -/
def enter (b : Building) : Option String → Option Nat × Building
  | none => (none, b)
  | some name =>
    let id := b.names.length
    let names := (name, id) :: b.names.filter (·.1 ≠ name)
    (some id, { b with names })

/-- The document with the node of an anchor; of two with one number the one that began later
stays. -/
def record (b : Building) (anchor : Option Nat) (order : Nat) (n : Node) : Building :=
  match anchor with
  | none => b
  | some id =>
    if b.anchors.any fun e => e.1 = id && order < e.2.1 then b
    else { b with anchors := (id, order, n) :: b.anchors.filter (·.1 ≠ id) }

/-- The nodes of the anchors. -/
def table (b : Building) : List (Nat × Node) := b.anchors.map fun e => (e.1, e.2.2)

/-- The document with a complete node. -/
def add (b : Building) (n : Node) : Building :=
  match b.opened with
  | [] => { b with root := b.root.orElse fun _ => some n }
  | o :: r => { b with opened := { o with parts := n :: o.parts } :: r }

/-- The document with an open collection. -/
def push (b : Building) (isMap : Bool) (p : Properties) (mark : Mark) : Building :=
  let (anchor, b) := b.enter p.anchor
  { b with opened := ⟨isMap, p.tag, anchor, b.events, mark, []⟩ :: b.opened, events := b.events + 1 }

/-- The document with its innermost collection closed. -/
def pop (b : Building) : Building :=
  match b.opened with
  | [] => b
  | o :: r =>
    let n := o.close
    ({ b with opened := r, events := b.events + 1 }.record o.anchor o.order n).add n

/-- The document with its open collections cut off, innermost first. -/
def cutAll (b : Building) (inner : Option Node) : List Open → Building
  | [] => { b with root := b.root.orElse fun _ => inner }
  | o :: r =>
    let n := o.cutOff inner
    cutAll (b.record o.anchor o.order n) (some n) r

end Building

/-- A document: its root, the nodes of its anchors, the number of its events, why nothing more can
be read from it, and whether another one follows. -/
structure Document where
  root : Node
  anchors : List (Nat × Node)
  events : Nat
  ending : Ending
  complete : Bool
  more : Bool

/-- The document that a building gives when its events end too early. -/
def Building.cutDocument (b : Building) (ending : Ending) : Document :=
  let b := b.cutAll none b.opened
  ⟨b.root.getD .cut, b.table, b.events, ending, false, false⟩

/-- The first document of events. -/
def Document.build (problem : Option Problem) (b : Building) : List Event → Document
  | [] =>
    b.cutDocument (match problem with
      | some p => .problem p
      | none => .endOfEvents)
  | e :: r =>
    match e.happening with
    | .documentStart => build problem b r
    | .documentEnd =>
      let more : Bool :=
        match r with
        | [] => true
        | e :: _ =>
          match e.happening with
          | .streamEnd => false
          | _ => true
      ⟨b.root.getD .cut, b.table, b.events, .endOfEvents, true, more⟩
    | .streamEnd => ⟨.void e.mark, [], 1, .endOfEvents, true, false⟩
    | .alias name =>
      match b.names.find? (·.1 = name) with
      | some (_, id) => build problem ({ b with events := b.events + 1 }.add (.alias id e.mark)) r
      | none => b.cutDocument (.unknownAnchor e.mark)
    | .scalar p text style =>
      let (anchor, b) := b.enter p.anchor
      let n : Node := .scalar ⟨text, style, p.tag⟩ e.mark
      build problem (({ b with events := b.events + 1 }.record anchor b.events n).add n) r
    | .listStart p => build problem (b.push false p e.mark) r
    | .mapStart p => build problem (b.push true p e.mark) r
    | .listEnd => build problem b.pop r
    | .mapEnd => build problem b.pop r

/-- The first document of a text. -/
def Document.ofText (s : List Char) : Document :=
  let es := Events.ofText s
  Document.build es.problem ⟨[], none, [], [], 0⟩ es.list

end Rehearsal.Yaml
