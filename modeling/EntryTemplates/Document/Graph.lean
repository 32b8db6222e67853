/-
**The nodes of a document.**

Nodes refer to each other by number, since an alias may lead back to a node that is still open.

Main definitions:

* `EntryTemplates.Document.Node` — scalars, sequences and mappings with their tags;
* `EntryTemplates.Document.Graph` — the nodes of a document, and its root if it has one;
* `EntryTemplates.Document.Graph.ofEvents` — the graph that events describe.
-/

import EntryTemplates.Document.Event
import EntryTemplates.Document.Tag

set_option relaxedAutoImplicit false
set_option autoImplicit false

namespace EntryTemplates.Document

/-- The content of a node; others are referred to by number. -/
inductive Content where
  | scalar (text : Text.Loose)
  | sequence (items : List Nat)
  | mapping (entries : List (Nat × Nat))
  deriving Repr, Inhabited

/-- A node: its tag and its content. -/
structure Node where
  tag : Tag
  content : Content
  deriving Repr, Inhabited

/-- The nodes of a document, and its root if it has one. -/
structure Graph where
  nodes : Array Node
  root : Option Nat
  deriving Repr

/-- A collection still open: its number and its items so far, the last one first. -/
structure OpenNode where
  number : Nat
  items : List Nat

/-- The state of collecting nodes. -/
structure Collector where
  nodes : Array Node
  root : Option Nat
  anchors : List (String × Nat)
  /-- The collections still open, from the inside out. -/
  path : List OpenNode
  /-- Whether a document has ended. -/
  ended : Bool

namespace Collector

/-- A failure of the composition. -/
def noNode {α : Type} : Except Failure α := .error (.malformed .composition)

/-- The state with a finished node put into the innermost open collection, or at the root. -/
def place (c : Collector) (number : Nat) : Collector :=
  match c.path with
  | top :: rest => { c with path := { top with items := number :: top.items } :: rest }
  | [] => { c with root := some number }

/-- The number of a new node, and the state with it. -/
def add (c : Collector) (label : Label) (tag : Tag) (content : Content) :
    Except Failure (Nat × Collector) :=
  let number := c.nodes.size
  let c := { c with nodes := c.nodes.push ⟨tag, content⟩ }
  match label.anchor with
  | none => .ok (number, c)
  | some name =>
      if (c.anchors.lookup name).isSome then noNode
      else .ok (number, { c with anchors := (name, number) :: c.anchors })

/-- The state with a new collection open. -/
def open_ (c : Collector) (label : Label) (tag : Tag) (content : Content) :
    Except Failure Collector := do
  let (number, c) ← c.add label tag content
  return { c with path := ⟨number, []⟩ :: c.path }

/-- Items taken two by two. -/
def pairUp {α : Type} : List α → List (α × α)
  | key :: value :: rest => (key, value) :: pairUp rest
  | _ => []

/-- The state with the innermost collection closed. -/
def close (c : Collector) : Collector :=
  match c.path with
  | [] => c
  | top :: rest =>
      let items := top.items.reverse
      let nodes := c.nodes.modify top.number fun n =>
        match n.content with
        | .mapping _ => { n with content := .mapping (pairUp items) }
        | _ => { n with content := .sequence items }
      { c with nodes, path := rest }.place top.number

/-- The tag of a collection: the one given, or its own. -/
def collectionTag (label : Label) (own : Tag) : Tag :=
  match label.tag with
  | none => own
  | some "!" => own
  | some name => .ofString name

/-- The tag of a scalar: the one given, the one that its text chooses, or text. -/
def scalarTag (label : Label) (isOpen : Bool) (text : Text.Loose) : Tag :=
  let found := if isOpen then resolve text.shape else .str
  match label.tag with
  | none => found
  | some "!" => found
  | some name => .ofString name

/-- **The state after an event.** -/
def step (c : Collector) : Event → Except Failure Collector
  | .streamStart => .ok c
  | .streamEnd => .ok c
  | .documentStart => if c.ended then noNode else .ok c
  | .documentEnd => .ok { c with ended := true }
  | .alias name =>
      match c.anchors.lookup name with
      | some number => .ok (c.place number)
      | none => noNode
  | .scalar label isOpen text => do
      let (number, c) ← c.add label (scalarTag label isOpen text) (.scalar text)
      return c.place number
  | .sequenceStart label => c.open_ label (collectionTag label .seq) (.sequence [])
  | .mappingStart label => c.open_ label (collectionTag label .map) (.mapping [])
  | .sequenceEnd => .ok c.close
  | .mappingEnd => .ok c.close

/-- The state before the first event. -/
def start : Collector :=
  { nodes := #[]
    root := none
    anchors := []
    path := []
    ended := false }

end Collector

/-- **The graph that events describe.** -/
def Graph.ofEvents (events : Feed Event) : Except Failure Graph := do
  let c ← events.items.foldlM Collector.step .start
  if events.items.getLast? = some .streamEnd then return ⟨c.nodes, c.root⟩
  else .error events.failure

end EntryTemplates.Document
