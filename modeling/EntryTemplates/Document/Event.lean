/-
**The events of a document.**

An event tells where a document or a collection begins and ends, and names each scalar and alias.
Tokens become events by a machine that keeps, for every collection still open, what it expects next.
A place where a node was expected and none stands holds an empty scalar.

Main definitions:

* `EntryTemplates.Document.Event` — the events;
* `EntryTemplates.Document.Expect` — what can be expected next;
* `EntryTemplates.Document.Reader.step` — the next event;
* `EntryTemplates.Document.events` — the events of some tokens.
-/

import EntryTemplates.Document.Feed
import EntryTemplates.Document.Token

set_option relaxedAutoImplicit false
set_option autoImplicit false

namespace EntryTemplates.Document

/-- What is said about a node before its content. -/
structure Label where
  anchor : Option String
  tag : Option String
  deriving DecidableEq, Repr

/-- The label of a node about which nothing is said. -/
def Label.none : Label := ⟨.none, .none⟩

/-- The events of a document; `isOpen` tells that the tag of a scalar is found from its text. -/
inductive Event where
  | streamStart
  | streamEnd
  | documentStart
  | documentEnd
  | alias (name : String)
  | scalar (label : Label) (isOpen : Bool) (text : Text.Loose)
  | sequenceStart (label : Label)
  | sequenceEnd
  | mappingStart (label : Label)
  | mappingEnd
  deriving DecidableEq, Repr, Inhabited

/-- The scalar that stands where no node does. -/
def Event.empty : Event := .scalar .none true ""

/-- What can be expected next. -/
inductive Expect where
  | streamStart
  | firstDocument
  | document
  | documentContent
  | documentEnd
  | blockNode
  | blockSequenceEntry
  /-- An entry of a sequence that is indented no deeper than the mapping around it. -/
  | dashEntry
  | blockMappingKey
  | blockMappingValue
  | flowSequenceEntry (isFirst : Bool)
  /-- The key of a single pair inside a flow sequence. -/
  | pairKey
  | pairValue
  | pairEnd
  | flowMappingKey (isFirst : Bool)
  | flowMappingValue
  /-- The value of a key that no question mark or colon marks. -/
  | flowMappingMissingValue
  | nothing
  deriving DecidableEq, Repr

/-- The state of reading events. -/
structure Reader where
  tokens : Feed Token
  /-- What the handles of tags stand for. -/
  handles : List (String × String)
  /-- What is expected next. -/
  now : Expect
  /-- What is expected after the present node, from the inside out. -/
  later : List Expect

/-- An event together with the state after it. -/
abbrev Reader.Step : Type := Event × Reader

/-- A failure of the grammar. -/
def noEvent {α : Type} : Except Failure α := .error (.malformed .grammar)

/-- What the handles of tags stand for if nothing is said about them. -/
def defaultHandles : List (String × String) := [("!", "!"), ("!!", "tag:yaml.org,2002:")]

namespace Reader

/-- The state before the first token. -/
def start (ts : Feed Token) : Reader :=
  { tokens := ts
    handles := defaultHandles
    now := .streamStart
    later := [] }

/-- The next token, which stays. -/
def peek (r : Reader) : Except Failure Token := r.tokens.peek

/-- The state after the next token. -/
def skip (r : Reader) : Reader := { r with tokens := r.tokens.skip }

/-- The state with an expectation. -/
def expect (r : Reader) (e : Expect) : Reader := { r with now := e }

/-- The state with an expectation for after the present node. -/
def afterwards (r : Reader) (e : Expect) : Reader := { r with later := e :: r.later }

/-- The state after a node. -/
def finish (r : Reader) : Reader :=
  match r.later with
  | e :: rest => { r with now := e, later := rest }
  | [] => { r with now := .nothing }

/-! ### Directives -/

/-- The state after directives, where `version` tells that one for the version was seen. -/
def readDirectives : Nat → Bool → List (String × String) → Reader → Except Failure Reader
  | 0, _, _, _ => noEvent
  | fuel + 1, version, handles, r => do
      match ← r.peek with
      | .directive (.version major _) =>
          if version ∨ major ≠ 1 then noEvent
          else readDirectives fuel true handles r.skip
      | .directive (.tag handle start) =>
          if (handles.lookup handle).isSome then noEvent
          else readDirectives fuel version (handles ++ [(handle, start)]) r.skip
      | .directive .other => readDirectives fuel version handles r.skip
      | _ => return { r with handles := handles ++ defaultHandles }

/-- The state after marks of a document's end. -/
def skipDocumentEnds : Nat → Reader → Except Failure Reader
  | 0, _ => noEvent
  | fuel + 1, r => do
      match ← r.peek with
      | .documentEnd => skipDocumentEnds fuel r.skip
      | _ => return r

/-! ### Nodes -/

/-- The tag that a handle and a suffix mean. -/
def resolveTag (r : Reader) : Option String × String → Except Failure String
  | (some handle, suffix) =>
      match r.handles.lookup handle with
      | some start => .ok (start ++ suffix)
      | none => noEvent
  | (none, suffix) => .ok suffix

/-- The anchor and the tag before a node, in either order, and the state after them. -/
def readLabel (r : Reader) : Except Failure (Label × Reader) := do
  let (anchor, tag, r) ← match ← r.peek with
    | .anchor name =>
        let r := r.skip
        match ← r.peek with
        | .tag handle suffix => pure (some name, some (handle, suffix), r.skip)
        | _ => pure (some name, none, r)
    | .tag handle suffix =>
        let r := r.skip
        match ← r.peek with
        | .anchor name => pure (some name, some (handle, suffix), r.skip)
        | _ => pure (none, some (handle, suffix), r)
    | _ => pure (none, none, r)
  match tag with
  | some t => return (⟨anchor, some (← r.resolveTag t)⟩, r)
  | none => return (⟨anchor, none⟩, r)

/-- Whether the tag of a scalar is found from its text. -/
def isOpenScalar (label : Label) (form : ScalarForm) : Bool :=
  (form = .plain && label.tag = none) || label.tag = some "!"

/-- The first event of a node; `inBlock` tells that block collections may stand here, and `dashes`
that a sequence may stand without deeper indentation. -/
def readNode (r : Reader) (inBlock dashes : Bool) : Except Failure Step := do
  match ← r.peek with
  | .alias name => return (.alias name, r.skip.finish)
  | _ =>
      let (label, r) ← r.readLabel
      match ← r.peek with
      | .blockEntry =>
          if dashes then return (.sequenceStart label, r.expect .dashEntry) else empty label r
      | .scalar text form => return (.scalar label (isOpenScalar label form) text, r.skip.finish)
      | .flowSequenceStart =>
          return (.sequenceStart label, r.skip.expect (.flowSequenceEntry true))
      | .flowMappingStart => return (.mappingStart label, r.skip.expect (.flowMappingKey true))
      | .blockSequenceStart =>
          if inBlock then return (.sequenceStart label, r.skip.expect .blockSequenceEntry)
          else empty label r
      | .blockMappingStart =>
          if inBlock then return (.mappingStart label, r.skip.expect .blockMappingKey)
          else empty label r
      | _ => empty label r
where
  /-- An empty scalar, which must have a label. -/
  empty (label : Label) (r : Reader) : Except Failure Step :=
    if label = .none then noEvent
    else .ok (.scalar label (label.tag = none || label.tag = some "!") "", r.finish)

/-- A node unless one of the `marks` stands here; then an empty scalar.  Either way, `next` is
expected afterwards. -/
def readNodeOrEmpty (r : Reader) (marks : List Token) (next : Expect) (inBlock dashes : Bool) :
    Except Failure Step := do
  if (← r.peek) ∈ marks then return (.empty, r.expect next)
  else (r.afterwards next).readNode inBlock dashes

/-- The end of a collection. -/
def close (r : Reader) (e : Event) : Except Failure Step := .ok (e, r.skip.finish)

/-! ### Steps -/

/-- The beginning of a document, or the end of all. -/
def readDocument (r : Reader) : Except Failure Step := do
  let fuel := r.tokens.items.length + 1
  let r ← skipDocumentEnds fuel r
  match ← r.peek with
  | .streamEnd => return (.streamEnd, r.skip.expect .nothing)
  | _ =>
      let r ← readDirectives fuel false [] r
      match ← r.peek with
      | .documentStart =>
          return (.documentStart, (r.skip.afterwards .documentEnd).expect .documentContent)
      | _ => noEvent

/-- An entry of a flow sequence, or its end. -/
def readFlowSequenceEntry (r : Reader) (isFirst : Bool) : Except Failure Step := do
  if (← r.peek) = .flowSequenceEnd then r.close .sequenceEnd
  else
    let r ← if isFirst then pure r
      else if (← r.peek) = .flowEntry then pure r.skip
      else noEvent
    match ← r.peek with
    | .key => return (.mappingStart .none, r.skip.expect .pairKey)
    | .flowSequenceEnd => r.close .sequenceEnd
    | _ => (r.afterwards (.flowSequenceEntry false)).readNode false false

/-- A key of a flow mapping, or its end. -/
def readFlowMappingKey (r : Reader) (isFirst : Bool) : Except Failure Step := do
  if (← r.peek) = .flowMappingEnd then r.close .mappingEnd
  else
    let r ← if isFirst then pure r
      else if (← r.peek) = .flowEntry then pure r.skip
      else noEvent
    match ← r.peek with
    | .key =>
        r.skip.readNodeOrEmpty [.value, .flowEntry, .flowMappingEnd] .flowMappingValue false false
    | .flowMappingEnd => r.close .mappingEnd
    | _ => (r.afterwards .flowMappingMissingValue).readNode false false

/-- A value after its colon, or an empty scalar where no colon stands. -/
def readValue (r : Reader) (marks : List Token) (next : Expect) (inBlock : Bool) :
    Except Failure Step := do
  if (← r.peek) = .value then r.skip.readNodeOrEmpty marks next inBlock inBlock
  else return (.empty, r.expect next)

/-- **The next event.** -/
def step (r : Reader) : Except Failure Step := do
  match r.now with
  | .streamStart =>
      let _ ← r.peek
      return (.streamStart, r.skip.expect .firstDocument)
  | .firstDocument =>
      match ← r.peek with
      | .directive _ | .documentStart | .streamEnd => r.readDocument
      | _ =>
          return (.documentStart,
            ({ r with handles := defaultHandles }.afterwards .documentEnd).expect .blockNode)
  | .document => r.readDocument
  | .documentContent =>
      match ← r.peek with
      | .directive _ | .documentStart | .documentEnd | .streamEnd => return (.empty, r.finish)
      | _ => r.readNode true false
  | .documentEnd =>
      let r := if (← r.peek) = .documentEnd then r.skip else r
      return (.documentEnd, r.expect .document)
  | .blockNode => r.readNode true false
  | .blockSequenceEntry =>
      match ← r.peek with
      | .blockEntry =>
          r.skip.readNodeOrEmpty [.blockEntry, .blockEnd] .blockSequenceEntry true false
      | .blockEnd => r.close .sequenceEnd
      | _ => noEvent
  | .dashEntry =>
      match ← r.peek with
      | .blockEntry =>
          r.skip.readNodeOrEmpty [.blockEntry, .key, .value, .blockEnd] .dashEntry true false
      | _ => return (.sequenceEnd, r.finish)
  | .blockMappingKey =>
      match ← r.peek with
      | .key => r.skip.readNodeOrEmpty [.key, .value, .blockEnd] .blockMappingValue true true
      | .blockEnd => r.close .mappingEnd
      | _ => noEvent
  | .blockMappingValue => r.readValue [.key, .value, .blockEnd] .blockMappingKey true
  | .flowSequenceEntry isFirst => r.readFlowSequenceEntry isFirst
  | .pairKey =>
      r.readNodeOrEmpty [.value, .flowEntry, .flowSequenceEnd] .pairValue false false
  | .pairValue => r.readValue [.flowEntry, .flowSequenceEnd] .pairEnd false
  | .pairEnd =>
      let _ ← r.peek
      return (.mappingEnd, r.expect (.flowSequenceEntry false))
  | .flowMappingKey isFirst => r.readFlowMappingKey isFirst
  | .flowMappingValue => r.readValue [.flowEntry, .flowMappingEnd] (.flowMappingKey false) false
  | .flowMappingMissingValue =>
      let _ ← r.peek
      return (.empty, r.expect (.flowMappingKey false))
  | .nothing => noEvent

/-- The events read, in reverse after `taken`, until the last one or a failure. -/
def run : Nat → Reader → List Event → Feed Event
  | 0, _, taken => ⟨taken.reverse, .malformed .grammar⟩
  | fuel + 1, r, taken =>
      match r.step with
      | .error e => ⟨taken.reverse, e⟩
      | .ok (.streamEnd, _) => ⟨(.streamEnd :: taken).reverse, .malformed .grammar⟩
      | .ok (e, r) => run fuel r (e :: taken)

end Reader

/-- **The events of some tokens.** -/
def events (ts : Feed Token) : Feed Event := (Reader.start ts).run (4 * ts.items.length + 16) []

end EntryTemplates.Document
