/-
**The data of a document.**

Scalars get their values when they are met.  Collections are filled later, in the order in which
they were met, so that a collection may hold itself.  A merge key puts the entries of another
mapping before those of its own.

Main definitions:

* `EntryTemplates.Document.Object` — scalars with a value, and collections of objects;
* `EntryTemplates.Document.Builder.fill` — the content of a collection;
* `EntryTemplates.Document.Loaded` — the objects of a document;
* `EntryTemplates.Document.load` — the objects that a text describes.

A text is read block by block as far as it is needed.  So a character that no document may hold is
come upon only if nothing before its block is wrong.  How deeply a document is nested is no matter.
-/

import EntryTemplates.Document.Graph
import EntryTemplates.Document.Scalar
import EntryTemplates.Document.Tokens
import EntryTemplates.Number.Quotient
import EntryTemplates.Text.Utf8

set_option relaxedAutoImplicit false
set_option autoImplicit false

namespace EntryTemplates.Document

/-! ### Keys -/

/-- A number as a quotient. -/
def quotient? : Datum → Option (Int × Nat)
  | .bool b => some (if b then 1 else 0, 1)
  | .int i => some (i, 1)
  | .float x => Number.quotient? x
  | _ => none

/-- The moment in microseconds of a calendar without months, where that is known. -/
def Moment.instant (m : Moment) : Int :=
  let y : Int := m.year - 1
  let days := y * 365 + Int.fdiv y 4 - Int.fdiv y 100 + Int.fdiv y 400
    + (List.range (m.month - 1)).foldl (fun days k => days + (daysIn m.year (k + 1) : Int)) 0 + m.day
  let seconds := days * 86400 + m.hour * 3600 + m.minute * 60 + m.second - m.offset.getD 0
  seconds * 1000000 + m.microsecond

/-- Whether two values are the same key: numbers by their value, moments by their instant. -/
def sameKey (a b : Datum) : Bool :=
  match a, b with
  | .null, .null => true
  | .text s, .text t => s = t
  | .loose s, .loose t => s = t
  | .bytes s, .bytes t => s = t
  | .date y m d, .date y' m' d' => y = y' && m = m' && d = d'
  | .moment m, .moment m' =>
      m.offset.isSome = m'.offset.isSome && Moment.instant m = Moment.instant m'
  | .float x, .float y => x == y
  | _, _ =>
      match quotient? a, quotient? b with
      | some (n, d), some (n', d') => n * d' = n' * d
      | _, _ => false

/-- The entries with a key given a value: an equal key keeps its place. -/
def putEntry {α : Type} (key : Datum) (value : α) : List (Datum × α) → List (Datum × α)
  | [] => [(key, value)]
  | (k, v) :: rest =>
      if sameKey k key then (k, value) :: rest else (k, v) :: putEntry key value rest

/-! ### Objects -/

/-- Scalars with a value, and collections that refer to other objects by number. -/
inductive Object where
  | scalar (d : Datum)
  | list (items : List Nat)
  | pairs (items : List (Nat × Nat))
  | map (entries : List (Datum × Nat))
  | set (items : List Datum)
  deriving Inhabited

/-- The state of building objects: an object is built under the number of its node. -/
structure Builder where
  nodes : Array Node
  objects : Array (Option Object)
  /-- The collections to be filled. -/
  queue : List Nat

namespace Builder

/-- A failure of a value. -/
def noValue {α : Type} : Except Failure α := .error (.malformed .value)

/-- A node. -/
def node (b : Builder) (number : Nat) : Node := b.nodes[number]?.getD default

/-- The state with an object put under a number. -/
def put (b : Builder) (number : Nat) (o : Object) : Builder :=
  { b with objects := b.objects.setIfInBounds number (some o) }

/-- The text of a node: a mapping may have a key that marks its text. -/
def textOf (b : Builder) : Nat → Nat → Except Failure Text.Loose
  | 0, _ => noValue
  | fuel + 1, number =>
      match (b.node number).content with
      | .scalar text => .ok text
      | .sequence _ => noValue
      | .mapping entries =>
          match entries.find? fun (key, _) => (b.node key).tag = .value with
          | some (_, value) => textOf b fuel value
          | none => noValue

/-- The value of a scalar. -/
def scalarValue (b : Builder) (number : Nat) : Except Failure Datum := do
  let text ← b.textOf (b.nodes.size + 1) number
  let s := text.shape.toList
  match (b.node number).tag with
  | .null => return .null
  | .bool => return .bool (← boolValue s)
  | .int => return .int (← intValue s)
  | .float => return .float (← floatValue s)
  | .binary => return .bytes (← binaryValue s)
  | .timestamp =>
      match (b.node number).content with
      | .scalar _ => momentValue s
      | _ => .error .momentOfMapping
  | _ => return .ofLoose text

/-- The state with the object of a node, which for a collection is to be filled later. -/
def build (b : Builder) (number : Nat) : Except Failure Builder :=
  match b.objects[number]?.getD none with
  | some _ => .ok b
  | none =>
      let later (o : Object) : Except Failure Builder :=
        .ok { b.put number o with queue := b.queue ++ [number] }
      match (b.node number).tag with
      | .seq => later (.list [])
      | .orderedMap | .pairs => later (.pairs [])
      | .map => later (.map [])
      | .set => later (.set [])
      | .merge | .value | .other => noValue
      | _ => (b.scalarValue number).map fun d => b.put number (.scalar d)

/-- The state with the objects of several nodes. -/
def buildAll (b : Builder) (numbers : List Nat) : Except Failure Builder :=
  numbers.foldlM build b

/-- The entries of a node that is a mapping. -/
def entriesOf (b : Builder) (number : Nat) : List (Nat × Nat) :=
  match (b.node number).content with
  | .mapping entries => entries
  | _ => []

/-- The state with other entries in a mapping. -/
def setEntries (b : Builder) (number : Nat) (entries : List (Nat × Nat)) : Builder :=
  { b with nodes := b.nodes.modify number fun n => { n with content := .mapping entries } }

/-- Whether a node is a mapping. -/
def isMapping (b : Builder) (number : Nat) : Bool :=
  match (b.node number).content with
  | .mapping _ => true
  | _ => false

/-- The state with merge keys resolved in a mapping, from its `index`-th entry on; `merged` holds
the entries merged so far. -/
def flattenFrom : Nat → Nat → Nat → List (Nat × Nat) → Builder → Except Failure Builder
  | 0, _, _, _, _ => noValue
  | fuel + 1, number, index, merged, b =>
      let entries := b.entriesOf number
      match entries[index]? with
      | none => .ok (if merged = [] then b else b.setEntries number (merged ++ entries))
      | some (key, value) =>
          match (b.node key).tag with
          | .merge => do
              let b := b.setEntries number (entries.eraseIdx index)
              match (b.node value).content with
              | .mapping _ =>
                  let b ← flattenFrom fuel value 0 [] b
                  flattenFrom fuel number index (merged ++ b.entriesOf value) b
              | .sequence items =>
                  let (b, lists) ← items.foldlM (fun (b, lists) item => do
                    if !b.isMapping item then noValue
                    else
                      let b ← flattenFrom fuel item 0 [] b
                      return (b, b.entriesOf item :: lists)) (b, [])
                  flattenFrom fuel number index (merged ++ lists.flatten) b
              | .scalar _ => noValue
          | .value =>
              let b := { b with nodes := b.nodes.modify key fun n => { n with tag := .str } }
              flattenFrom fuel number (index + 1) merged b
          | _ => flattenFrom fuel number (index + 1) merged b

/-- The number of entries in all mappings. -/
def entryCount (b : Builder) : Nat :=
  b.nodes.foldl (fun n node =>
    match node.content with
    | .mapping entries => n + entries.length
    | _ => n) 0

/-- The entries of a mapping with their objects; only scalars can be keys. -/
def fillEntries (b : Builder) (entries : List (Nat × Nat)) :
    Except Failure (Builder × List (Datum × Nat)) :=
  entries.foldlM (fun (b, filled) (key, value) => do
    let b ← b.build key
    match b.objects[key]?.getD none with
    | some (.scalar d) =>
        let b ← b.build value
        return (b, putEntry d value filled)
    | _ => noValue) (b, [])

/-- The entries of a node that must be a mapping, with merge keys resolved. -/
def fillMapping (b : Builder) (number : Nat) : Except Failure (Builder × List (Datum × Nat)) := do
  if !b.isMapping number then noValue
  else
    let limit := (b.entryCount + 2) * (b.entryCount + 2) + b.nodes.size
    let b ← flattenFrom limit number 0 [] b
    b.fillEntries (b.entriesOf number)

/-- The pairs of a node that must be a sequence of mappings with one entry each. -/
def fillPairs (b : Builder) (items : List Nat) : Except Failure (Builder × List (Nat × Nat)) :=
  items.foldlM (fun (b, filled) item => do
    match (b.node item).content with
    | .mapping [(key, value)] =>
        let b ← b.buildAll [key, value]
        return (b, filled ++ [(key, value)])
    | _ => noValue) (b, [])

/-- **The state with a collection filled.** -/
def fill (b : Builder) (number : Nat) : Except Failure Builder := do
  match (b.node number).tag, (b.node number).content with
  | .seq, .sequence items =>
      let b ← b.buildAll items
      return b.put number (.list items)
  | .orderedMap, .sequence items | .pairs, .sequence items =>
      let (b, filled) ← b.fillPairs items
      return b.put number (.pairs filled)
  | .map, _ =>
      let (b, entries) ← b.fillMapping number
      return b.put number (.map entries)
  | .set, _ =>
      let (b, entries) ← b.fillMapping number
      return b.put number (.set (entries.map Prod.fst))
  | _, _ => noValue

/-- The state with all collections filled; every node is filled at most once. -/
def run : Nat → Builder → Except Failure Builder
  | 0, b => .ok b
  | fuel + 1, b =>
      match b.queue with
      | [] => .ok b
      | number :: queue => do run fuel (← { b with queue := queue }.fill number)

end Builder

/-! ### Loading -/

/-- The objects of a document, and its root if it has one. -/
structure Loaded where
  objects : Array (Option Object)
  root : Option Nat

namespace Loaded

/-- An object. -/
def object (l : Loaded) (number : Nat) : Object := (l.objects[number]?.getD none).getD default

/-- The value of an object; `path` holds the collections around it. -/
def valueFrom (l : Loaded) : Nat → List Nat → Nat → Datum
  | 0, _, _ => .null
  | fuel + 1, path, number =>
      let inner := valueFrom l fuel (number :: path)
      match l.object number with
      | .scalar d => d
      | .set items => .set items
      | .list items => if number ∈ path then .again false else .list (items.map inner)
      | .pairs items =>
          if number ∈ path then .again false
          else .list (items.map fun (k, v) => .tuple [inner k, inner v])
      | .map entries =>
          if number ∈ path then .again true
          else .map (entries.map fun (k, v) => (k, inner v))

/-- The value of an object. -/
def value (l : Loaded) (number : Nat) : Datum := l.valueFrom (l.objects.size + 1) [] number

/-- The entries of the root, if it is a mapping. -/
def entries? (l : Loaded) : Option (List (Datum × Nat)) :=
  match l.root.map l.object with
  | some (.map entries) => some entries
  | _ => none

end Loaded

/-- The objects of a graph. -/
def Loaded.ofGraph (g : Graph) : Except Failure Loaded := do
  match g.root with
  | none => return ⟨#[], none⟩
  | some root =>
      let b : Builder := ⟨g.nodes, Array.replicate g.nodes.size none, []⟩
      let b ← b.build root
      let b ← b.run (g.nodes.size + 1)
      return ⟨b.objects, some root⟩

/-- How many of `n` characters are read, where the next one cannot be: whole blocks, the first two of
them at once. -/
def readBefore (n : Nat) : Nat :=
  if n < 2 * Text.blockSize then 0 else n / Text.blockSize * Text.blockSize

/-- The objects of a text that cannot be read to its end: what stands in it before may be wrong, or
else the character is that cannot be read. -/
def loadPart (s : List Char) : Except Failure Loaded := do
  let part := s.take (readBefore (s.takeWhile isAllowed).length)
  Loaded.ofGraph (← Graph.ofEvents (events (tokensOfPart part)))

/-- **The objects that a text describes.** -/
def load (s : String) : Except Failure Loaded :=
  let chars := s.toList
  if chars.all isAllowed then do Loaded.ofGraph (← Graph.ofEvents (events (tokens chars)))
  else loadPart chars

end EntryTemplates.Document
