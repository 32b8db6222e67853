/-
**The tokens of a text.**

Block collections are marked by indentation: a deeper column opens one, a shallower column closes
it.  A mapping's key shows itself only by the colon behind it, so every token that may begin a key
is remembered until the line ends or 1024 characters have gone by; when the colon comes, the mark
of the key is put before that token.

Main definitions:

* `EntryTemplates.Document.PendingKey` — a token that may begin a key;
* `EntryTemplates.Document.Scan` — the state of reading tokens;
* `EntryTemplates.Document.Scan.fetch` — reading on by one step;
* `EntryTemplates.Document.tokens`, `EntryTemplates.Document.tokensOfPart` — the tokens of a text, or
  of the part of it that can be read.
-/

import EntryTemplates.Document.Feed
import EntryTemplates.Document.Lexeme

set_option relaxedAutoImplicit false
set_option autoImplicit false

namespace EntryTemplates.Document

/-- A token that may begin a key. -/
structure PendingKey where
  /-- The depth of flow collections around it. -/
  level : Int
  /-- The number of tokens before it. -/
  token : Nat
  /-- Whether it must turn out a key. -/
  required : Bool
  index : Nat
  line : Nat
  column : Nat
  deriving Repr

/-- The state of reading tokens. -/
structure Scan where
  cursor : Cursor
  /-- The depth of flow collections; closing marks without an opening one make it negative. -/
  level : Int
  /-- The number of tokens handed on. -/
  taken : Nat
  /-- The tokens read and not yet handed on. -/
  queue : List Token
  /-- The column of the innermost block collection, or -1. -/
  indent : Int
  /-- The columns of those around it. -/
  outer : List Int
  /-- Whether a key may begin here. -/
  keyAllowed : Bool
  /-- The tokens that may begin a key, at most one for each depth. -/
  keys : List PendingKey
  /-- Whether the end of the text was reached. -/
  done : Bool

namespace Scan

/-- The state before the first character. -/
def start (s : List Char) : Scan :=
  { cursor := .start s
    level := 0
    taken := 0
    queue := [.streamStart]
    indent := -1
    outer := []
    keyAllowed := true
    keys := []
    done := false }

/-- Whether the cursor stands inside a flow collection. -/
def inFlow (s : Scan) : Bool := s.level ≠ 0

/-- The state with tokens added. -/
def push (s : Scan) (ts : List Token) : Scan := { s with queue := s.queue ++ ts }

/-! ### Keys -/

/-- Whether a pending key has been left behind. -/
def isStale (s : Scan) (k : PendingKey) : Bool :=
  k.line ≠ s.cursor.line || 1024 < s.cursor.index - k.index

/-- The state without the pending keys that were left behind. -/
def dropStale (s : Scan) : Except Failure Scan :=
  if s.keys.any fun k => s.isStale k && k.required then noToken s.cursor
  else .ok { s with keys := s.keys.filter fun k => !s.isStale k }

/-- The pending key of the present depth. -/
def pending? (s : Scan) : Option PendingKey := s.keys.find? fun k => k.level = s.level

/-- The state without the pending key of the present depth. -/
def dropKey (s : Scan) : Except Failure Scan :=
  match s.pending? with
  | some k =>
      if k.required then noToken s.cursor
      else .ok { s with keys := s.keys.filter fun k => k.level ≠ s.level }
  | none => .ok s

/-- The state in which the next token may begin a key. -/
def noteKey (s : Scan) : Except Failure Scan :=
  if s.keyAllowed then
    match s.dropKey with
    | .error e => .error e
    | .ok s' =>
        let key : PendingKey :=
          { level := s.level
            token := s.taken + s.queue.length
            required := s.level = 0 ∧ s.indent = s.cursor.column
            index := s.cursor.index
            line := s.cursor.line
            column := s.cursor.column }
        .ok { s' with keys := s'.keys ++ [key] }
  else .ok s

/-- Whether the first token of the queue may still turn out a key. -/
def isWaiting (s : Scan) : Bool := s.keys.any fun k => k.token = s.taken

/-! ### Indentation -/

/-- Leaves the block collections deeper than a column. -/
def leave (column : Int) : List Int → Int → List Token → Int × List Int × List Token
  | [], indent, ends => (indent, [], ends)
  | outer :: rest, indent, ends =>
      if column < indent then leave column rest outer (.blockEnd :: ends)
      else (indent, outer :: rest, ends)

/-- The state with the block collections deeper than a column closed. -/
def unwind (s : Scan) (column : Int) : Scan :=
  if s.inFlow then s
  else
    let (indent, outer, ends) := leave column s.outer s.indent []
    { s with indent, outer, queue := s.queue ++ ends }

/-- The state with a block collection opened at a column, if that is deeper; whether it was. -/
def deepen (s : Scan) (column : Nat) : Scan × Bool :=
  if s.indent < column then
    ({ s with indent := column, outer := s.indent :: s.outer }, true)
  else (s, false)

/-! ### Single steps -/

/-- The state after blanks, comments and line breaks. -/
def skipSpace : Nat → Scan → Scan
  | 0, s => s
  | fuel + 1, s =>
      let c := s.cursor.skipBlanks.skipComment
      if isBreak c.peek then
        skipSpace fuel
          { s with cursor := c.lineBreak.2, keyAllowed := s.keyAllowed || s.level = 0 }
      else { s with cursor := c }

/-- The state at the next token. -/
def toNextToken (s : Scan) : Scan :=
  let c := s.cursor
  let c := if c.index = 0 ∧ c.peek = '\uFEFF' then c.step else c
  skipSpace (c.rest.length + 1) { s with cursor := c }

/-- The state after the end of the text. -/
def fetchEnd (s : Scan) : Except Failure Scan := do
  let s ← (s.unwind (-1)).dropKey
  return { s.push [.streamEnd] with keyAllowed := false, keys := [], done := true }

/-- The state after a directive. -/
def fetchDirective (s : Scan) : Except Failure Scan := do
  let s ← (s.unwind (-1)).dropKey
  let (t, c) ← readDirective s.cursor
  return { s.push [t] with keyAllowed := false, cursor := c }

/-- The state after a mark between documents. -/
def fetchSeparator (s : Scan) (t : Token) : Except Failure Scan := do
  let s ← (s.unwind (-1)).dropKey
  return { s.push [t] with keyAllowed := false, cursor := s.cursor.forward 3 }

/-- The state after the beginning of a flow collection. -/
def fetchFlowStart (s : Scan) (t : Token) : Except Failure Scan := do
  let s ← s.noteKey
  return { s.push [t] with level := s.level + 1, keyAllowed := true, cursor := s.cursor.step }

/-- The state after the end of a flow collection. -/
def fetchFlowEnd (s : Scan) (t : Token) : Except Failure Scan := do
  let s ← s.dropKey
  return { s.push [t] with level := s.level - 1, keyAllowed := false, cursor := s.cursor.step }

/-- The state after a comma in a flow collection. -/
def fetchFlowEntry (s : Scan) : Except Failure Scan := do
  let s ← s.dropKey
  return { s.push [.flowEntry] with keyAllowed := true, cursor := s.cursor.step }

/-- The state with a block collection opened here, if that is deeper; outside flow collections a
key must be allowed. -/
def openBlock (s : Scan) (t : Token) : Except Failure Scan := do
  if s.inFlow then return s
  require s.cursor s.keyAllowed
  let (s, opened) := s.deepen s.cursor.column
  return if opened then s.push [t] else s

/-- The state after the dash of a block sequence. -/
def fetchBlockEntry (s : Scan) : Except Failure Scan := do
  let s ← s.openBlock .blockSequenceStart
  let s ← s.dropKey
  return { s.push [.blockEntry] with keyAllowed := true, cursor := s.cursor.step }

/-- The state after a question mark before a key. -/
def fetchKey (s : Scan) : Except Failure Scan := do
  let s ← s.openBlock .blockMappingStart
  let s ← s.dropKey
  return { s.push [.key] with keyAllowed := s.level = 0, cursor := s.cursor.step }

/-- A list with items put before its `n`-th one. -/
def insertAt {α : Type} (n : Nat) (items : List α) (l : List α) : List α :=
  l.take n ++ items ++ l.drop n

/-- The state after the colon before a value. -/
def fetchValue (s : Scan) : Except Failure Scan := do
  match s.pending? with
  | some k =>
      let s := { s with keys := s.keys.filter fun k => k.level ≠ s.level }
      let (s, opened) := if s.inFlow then (s, false) else s.deepen k.column
      let marks := if opened then [Token.blockMappingStart, .key] else [.key]
      let s := { s with queue := insertAt (k.token - s.taken) marks s.queue }
      return { s.push [.value] with keyAllowed := false, cursor := s.cursor.step }
  | none =>
      let s ← s.openBlock .blockMappingStart
      return { s.push [.value] with keyAllowed := s.level = 0, cursor := s.cursor.step }

/-- The state after an alias, an anchor, a tag or a quoted scalar, each of which may begin a
key. -/
def fetchKeyLike (s : Scan) (read : Cursor → Except Failure (Token × Cursor)) :
    Except Failure Scan := do
  let s ← s.noteKey
  let (t, c) ← read s.cursor
  return { s.push [t] with keyAllowed := false, cursor := c }

/-- The state after a plain scalar. -/
def fetchPlain (s : Scan) : Except Failure Scan := do
  let s ← s.noteKey
  let (t, broke, c) := readPlain s.inFlow (s.indent + 1) s.cursor
  return { s.push [t] with keyAllowed := broke, cursor := c }

/-- The state after a block scalar. -/
def fetchBlockScalar (s : Scan) (isFolded : Bool) : Except Failure Scan := do
  let s ← s.dropKey
  let (t, c) ← readBlockScalar isFolded s.indent s.cursor
  return { s.push [t] with keyAllowed := true, cursor := c }

/-- Whether a plain scalar begins here. -/
def atPlain (s : Scan) : Bool :=
  let ch := s.cursor.peek
  let next := s.cursor.peekAt 1
  !(isBlankOrEnd ch || ch ∈ "-?:,[]\x7b\x7d#&*!|>'\"%@\x60".toList)
    || (!isBlankOrEnd next && (ch = '-' || (!s.inFlow && (ch = '?' || ch = ':'))))

/-- **The state after the next token**, or after several of them. -/
def fetch (s : Scan) : Except Failure Scan := do
  let s ← s.toNextToken.dropStale
  let s := s.unwind s.cursor.column
  let c := s.cursor
  let ch := c.peek
  let standsAlone := s.inFlow || isBlankOrEnd (c.peekAt 1)
  if ch = '\x00' then s.fetchEnd
  else if ch = '%' ∧ c.column = 0 then s.fetchDirective
  else if ch = '-' ∧ c.column = 0 ∧ c.atSeparator then s.fetchSeparator .documentStart
  else if ch = '.' ∧ c.column = 0 ∧ c.atSeparator then s.fetchSeparator .documentEnd
  else if ch = '[' then s.fetchFlowStart .flowSequenceStart
  else if ch = '\x7b' then s.fetchFlowStart .flowMappingStart
  else if ch = ']' then s.fetchFlowEnd .flowSequenceEnd
  else if ch = '\x7d' then s.fetchFlowEnd .flowMappingEnd
  else if ch = ',' then s.fetchFlowEntry
  else if ch = '-' ∧ isBlankOrEnd (c.peekAt 1) then s.fetchBlockEntry
  else if ch = '?' ∧ standsAlone then s.fetchKey
  else if ch = ':' ∧ standsAlone then s.fetchValue
  else if ch = '*' then
    s.fetchKeyLike fun c => (readName c).map fun (name, c) => (.alias name, c)
  else if ch = '&' then
    s.fetchKeyLike fun c => (readName c).map fun (name, c) => (.anchor name, c)
  else if ch = '!' then s.fetchKeyLike readTag
  else if ch = '|' ∧ !s.inFlow then s.fetchBlockScalar false
  else if ch = '>' ∧ !s.inFlow then s.fetchBlockScalar true
  else if ch = '\'' then s.fetchKeyLike (readQuoted false)
  else if ch = '"' then s.fetchKeyLike (readQuoted true)
  else if s.atPlain then s.fetchPlain
  -- the character after it has been looked at as well
  else noToken c.step

/-- The state after the next token of a text that goes on behind what can be read of it: what is
found at the end of that is not known to be so. -/
def fetchWithin (s : Scan) : Except Failure Scan :=
  match s.fetch with
  | .ok s' => if s'.cursor.rest = [] then .error (.malformed .character) else .ok s'
  | .error (.malformed (.token true)) => .error (.malformed .character)
  | .error e => .error e

/-- The tokens handed on, in reverse after `taken`, until the text ends or fails; `fetch` reads on by
one step. -/
def run (fetch : Scan → Except Failure Scan) : Nat → Scan → List Token → Feed Token
  | 0, _, taken => ⟨taken.reverse, .malformed (.token false)⟩
  | fuel + 1, s, taken =>
      if s.done then ⟨taken.reverse ++ s.queue, .malformed .grammar⟩
      else
        match s.queue with
        | [] =>
            match fetch s with
            | .ok s => run fetch fuel s taken
            | .error e => ⟨taken.reverse, e⟩
        | t :: queue =>
            match s.dropStale with
            | .error e => ⟨taken.reverse, e⟩
            | .ok s =>
                if s.isWaiting then
                  match fetch s with
                  | .ok s => run fetch fuel s taken
                  | .error e => ⟨taken.reverse, e⟩
                else run fetch fuel { s with queue := queue, taken := s.taken + 1 } (t :: taken)

end Scan

/-- **The tokens of a text.** -/
def tokens (s : List Char) : Feed Token := (Scan.start s).run Scan.fetch (8 * s.length + 32) []

/-- **The tokens of a part of a text**, behind which no more can be read. -/
def tokensOfPart (s : List Char) : Feed Token :=
  (Scan.start s).run Scan.fetchWithin (8 * s.length + 32) []

end EntryTemplates.Document
