/-
**Reading single tokens.**

Each function reads one token, or a part of one, from a cursor and returns it with the cursor
after it.

Main definitions:

* `EntryTemplates.Document.readDirective`, `readName`, `readTag` — directives, anchors and tags;
* `EntryTemplates.Document.readBlockScalar` — scalars that `|` and `>` introduce;
* `EntryTemplates.Document.readQuoted` — scalars in quotes;
* `EntryTemplates.Document.readPlain` — scalars without either.
-/

import EntryTemplates.Document.Cursor
import EntryTemplates.Document.Failure
import EntryTemplates.Document.Token
import EntryTemplates.Text.Utf8

set_option relaxedAutoImplicit false
set_option autoImplicit false

namespace EntryTemplates.Document

open Cursor
open Text (Letter)

/-- A reading that fails at a cursor. -/
def noToken {α : Type} (c : Cursor) : Except Failure α :=
  .error (.malformed (.token c.rest.isEmpty))

/-- Succeeds if the condition holds at a cursor. -/
def require (c : Cursor) (p : Prop) [Decidable p] : Except Failure Unit :=
  if p then .ok () else noToken c

/-! ### Names, tags and directives -/

/-- A name of letters, digits, hyphens and underscores, which must not be empty. -/
def readNameChars (c : Cursor) : Except Failure (List Char × Cursor) := do
  let (name, c) := c.span isNameChar
  require c (name ≠ [])
  return (name, c)

/-- The name of an anchor or alias, after its indicator. -/
def readName (c : Cursor) : Except Failure (String × Cursor) := do
  let (name, c) ← readNameChars c.step
  require c (isBlankOrEnd c.peek ∨ c.peek ∈ ['?', ':', ',', ']', '\x7d', '%', '@', '\x60'])
  return (String.ofList name, c)

/-- The value of hexadecimal digits. -/
def hexValue (digits : List Char) : Nat :=
  digits.foldl (fun acc c =>
    acc * 16 + (if c.isDigit then c.toNat - 0x30 else c.toLower.toNat - 0x57)) 0

/-- Bytes written as percent signs with two hexadecimal digits each. -/
def percentBytes : Nat → Cursor → Except Failure (List UInt8 × Cursor)
  | 0, c => .ok ([], c)
  | fuel + 1, c =>
      if c.peek = '%' then do
        let c := c.step
        require c (isHexDigit c.peek ∧ isHexDigit (c.peekAt 1))
        let byte := UInt8.ofNat (hexValue (c.rest.take 2))
        let (more, c) ← percentBytes fuel (c.forward 2)
        return (byte :: more, c)
      else .ok ([], c)

/-- The characters of a tag, percent signs aside. -/
def isTagChar (c : Char) : Bool :=
  c.isAlphanum || c ∈ "-;/?:@&=+$,_.!~*'()[]".toList

/-- The rest of a tag, with its escaped bytes decoded. -/
def tagText : Nat → Cursor → Except Failure (List Char × Cursor)
  | 0, c => .ok ([], c)
  | fuel + 1, c => do
      let (chars, c) := c.span isTagChar
      if c.peek = '%' then
        let (bytes, c) ← percentBytes (c.rest.length + 1) c
        match Text.decode ⟨bytes.toArray⟩ with
        | .ok s =>
            let (more, c) ← tagText fuel c
            return (chars ++ s.toList ++ more, c)
        | .error _ => noToken c
      else return (chars, c)

/-- The text of a tag, which must not be empty. -/
def readTagText (c : Cursor) : Except Failure (String × Cursor) := do
  let before := c.rest.length
  let (chars, c) ← tagText (before + 1) c
  require c (c.rest.length < before)
  return (String.ofList chars, c)

/-- The handle of a tag: an exclamation mark, or a name between two of them. -/
def readHandle (c : Cursor) : Except Failure (String × Cursor) := do
  require c (c.peek = '!')
  if c.peekAt 1 = ' ' then return ("!", c.step)
  else
    let (name, after) := c.step.span isNameChar
    if after.peek = '!' then return (String.ofList ('!' :: name ++ ['!']), after.step)
    else noToken after

/-- A tag: in angle brackets, a lone exclamation mark, or a handle and a suffix. -/
def readTag (c : Cursor) : Except Failure (Token × Cursor) := do
  let next := c.peekAt 1
  let (handle, suffix, c) ←
    if next = '<' then do
      let (suffix, c) ← readTagText (c.forward 2)
      require c (c.peek = '>')
      pure (none, suffix, c.step)
    else if isBlankOrEnd next then pure (none, "!", c.step)
    else do
      let ahead := c.step.rest.takeWhile fun ch => !isSpaceOrEnd ch
      let (handle, c) ← if '!' ∈ ahead then readHandle c else pure ("!", c.step)
      let (suffix, c) ← readTagText c
      pure (some handle, suffix, c)
  require c (isSpaceOrEnd c.peek)
  return (.tag handle suffix, c)

/-- The rest of a line that holds nothing but blanks and a comment, and its end. -/
def readLineEnd (c : Cursor) : Except Failure Cursor := do
  let c := c.skipBlanks.skipComment
  require c (isBreakOrEnd c.peek)
  return c.lineBreak.2

/-- A number of a version. -/
def readVersionNumber (c : Cursor) : Except Failure (Nat × Cursor) := do
  let (digits, c) := c.span Char.isDigit
  require c (digits ≠ [])
  if Number.digitLimit < digits.length then throw (.tooLong (.read digits.length))
  return (digits.foldl (fun acc d => acc * 10 + (d.toNat - 0x30)) 0, c)

/-- The value of a version directive. -/
def readVersion (c : Cursor) : Except Failure (Directive × Cursor) := do
  let (major, c) ← readVersionNumber c.skipBlanks
  require c (c.peek = '.')
  let (minor, c) ← readVersionNumber c.step
  require c (isSpaceOrEnd c.peek)
  return (.version major minor, c)

/-- The value of a tag directive. -/
def readTagDirective (c : Cursor) : Except Failure (Directive × Cursor) := do
  let (handle, c) ← readHandle c.skipBlanks
  require c (c.peek = ' ')
  let (start, c) ← readTagText c.skipBlanks
  require c (isSpaceOrEnd c.peek)
  return (.tag handle start, c)

/-- A directive, from its percent sign to the end of its line. -/
def readDirective (c : Cursor) : Except Failure (Token × Cursor) := do
  let (name, c) ← readNameChars c.step
  require c (isSpaceOrEnd c.peek)
  let (d, c) ←
    if name = "YAML".toList then readVersion c
    else if name = "TAG".toList then readTagDirective c
    else pure (.other, c.skipWhile fun ch => !isBreak ch)
  let c ← readLineEnd c
  return (.directive d, c)

/-! ### Block scalars -/

/-- What follows the indicator of a block scalar: whether to keep or drop the final line breaks,
and the indentation. -/
def readBlockHeader (c : Cursor) : Except Failure (Option Bool × Option Nat × Cursor) := do
  let chomping (c : Cursor) : Option Bool × Cursor :=
    if c.peek = '+' then (some true, c.step)
    else if c.peek = '-' then (some false, c.step)
    else (none, c)
  let increment (c : Cursor) : Except Failure (Option Nat × Cursor) :=
    if c.peek.isDigit then
      if c.peek = '0' then noToken c else .ok (some (c.peek.toNat - 0x30), c.step)
    else .ok (none, c)
  let (keep, c) := chomping c
  let (indent, c) ← increment c
  let (keep, c) := if keep = none ∧ indent ≠ none then chomping c else (keep, c)
  require c (isSpaceOrEnd c.peek)
  return (keep, indent, c)

/-- The line breaks before the first line of a block scalar, and the greatest column reached. -/
def leadingBreaks : Nat → Cursor → Nat → List Char × Nat × Cursor
  | 0, c, deepest => ([], deepest, c)
  | fuel + 1, c, deepest =>
      if c.peek = ' ' then leadingBreaks fuel c.step (max deepest c.step.column)
      else if isBreak c.peek then
        let (br, c) := c.lineBreak
        let (more, deepest, c) := leadingBreaks fuel c deepest
        (br ++ more, deepest, c)
      else ([], deepest, c)

/-- The cursor after blanks, up to a column. -/
def skipTo (indent : Nat) : Nat → Cursor → Cursor
  | 0, c => c
  | fuel + 1, c => if c.column < indent ∧ c.peek = ' ' then skipTo indent fuel c.step else c

/-- Line breaks, each followed by blanks up to a column. -/
def indentedBreaks (indent : Nat) : Nat → Cursor → List Char × Cursor
  | 0, c => ([], c)
  | fuel + 1, c =>
      let c := skipTo indent (indent + 1) c
      if isBreak c.peek then
        let (br, c) := c.lineBreak
        let (more, c) := indentedBreaks indent fuel c
        (br ++ more, c)
      else ([], c)

/-- The lines of a block scalar after the breaks in front of them.  Gives the text, the break after
the last line, and the breaks that follow it. -/
def blockLines (isFolded : Bool) (indent : Nat) :
    Nat → List Char → Cursor → List Char × List Char × List Char × Cursor
  | 0, breaks, c => ([], [], breaks, c)
  | fuel + 1, breaks, c =>
      let leading := c.peek ≠ ' ' ∧ c.peek ≠ '\t'
      let (line, c) := c.span fun ch => !isBreak ch
      let (br, c) := c.lineBreak
      let (after, c) := indentedBreaks indent (c.rest.length + 1) c
      if c.column = indent ∧ c.peek ≠ '\x00' then
        let joint :=
          if isFolded ∧ br = ['\n'] ∧ leading ∧ c.peek ≠ ' ' ∧ c.peek ≠ '\t' then
            (if after = [] then [' '] else [])
          else br
        let (text, last, rest, c) := blockLines isFolded indent fuel after c
        (breaks ++ line ++ joint ++ text, last, rest, c)
      else (breaks ++ line, br, after, c)

/-- A block scalar, from its indicator; `parent` is the indentation around it. -/
def readBlockScalar (isFolded : Bool) (parent : Int) (c : Cursor) : Except Failure (Token × Cursor) := do
  let (keep, increment, c) ← readBlockHeader c.step
  let c ← readLineEnd c
  let least : Nat := max 1 (parent + 1).toNat
  let fuel := c.rest.length + 1
  let (breaks, indent, c) :=
    match increment with
    | none =>
        let (breaks, deepest, c) := leadingBreaks fuel c 0
        (breaks, max least deepest, c)
    | some n =>
        let indent := least + n - 1
        let (breaks, c) := indentedBreaks indent fuel c
        (breaks, indent, c)
  let (text, last, rest, c) :=
    if c.column = indent ∧ c.peek ≠ '\x00' then blockLines isFolded indent fuel breaks c
    else ([], [], breaks, c)
  let ending := match keep with
    | some false => []
    | none => last
    | some true => last ++ rest
  return (.scalar (String.ofList (text ++ ending)) (if isFolded then .folded else .literal), c)

/-! ### Quoted scalars -/

/-- What a named escape stands for. -/
def escaped? : Char → Option Char
  | '0' => some '\x00'
  | 'a' => some '\x07'
  | 'b' => some '\x08'
  | 't' => some '\t'
  | '\t' => some '\t'
  | 'n' => some '\n'
  | 'v' => some '\x0B'
  | 'f' => some '\x0C'
  | 'r' => some '\r'
  | 'e' => some '\x1B'
  | ' ' => some ' '
  | '"' => some '"'
  | '\\' => some '\\'
  | '/' => some '/'
  | 'N' => some '\u0085'
  | '_' => some '\u00A0'
  | 'L' => some '\u2028'
  | 'P' => some '\u2029'
  | _ => none

/-- The number of digits after an escape by code. -/
def codeLength? : Char → Option Nat
  | 'x' => some 2
  | 'u' => some 4
  | 'U' => some 8
  | _ => none

/-- Line breaks inside quotes, each followed by blanks and tabs; a document separator must not
stand at the start of a line. -/
def quotedBreaks : Nat → Cursor → Except Failure (List Char × Cursor)
  | 0, c => .ok ([], c)
  | fuel + 1, c =>
      if c.atSeparator then noToken c
      else
        let c := c.skipWhile fun ch => ch = ' ' || ch = '\t'
        if isBreak c.peek then
          let (br, c) := c.lineBreak
          match quotedBreaks fuel c with
          | .ok (more, c) => .ok (br ++ more, c)
          | .error e => .error e
        else .ok ([], c)

/-- The letters of a double-quoted escape, after its backslash. -/
def readEscape (c : Cursor) : Except Failure (List Letter × Cursor) :=
  let ch := c.peek
  match escaped? ch with
  | some x => .ok ([.char x], c.step)
  | none =>
      match codeLength? ch with
      | some length =>
          let digits := c.step.rest.take length
          if digits.length = length ∧ digits.all isHexDigit then
            let code := hexValue digits
            if 0x80000000 ≤ code then .error .hugeCode
            else if 0x110000 ≤ code then .error .noCharacter
            else .ok ([.ofCode code], c.step.forward length)
          else noToken (c.step.skipWhile isHexDigit)
      | none =>
          if isBreak ch then
            let c := c.lineBreak.2
            (quotedBreaks (c.rest.length + 1) c).map fun (breaks, c) => (breaks.map .char, c)
          else noToken c

/-- Characters of a quoted scalar that break neither the line nor the scalar. -/
def isQuotedChar (c : Char) : Bool :=
  !(c = '\'' || c = '"' || c = '\\' || isBlankOrEnd c)

/-- The letters of a quoted scalar up to white space, its end, or the end of the text. -/
def quotedWord (double : Bool) : Nat → Cursor → Except Failure (List Letter × Cursor)
  | 0, c => .ok ([], c)
  | fuel + 1, c =>
      let (chars, c) := c.span isQuotedChar
      let ch := c.peek
      let more (letters : List Letter) (c : Cursor) : Except Failure (List Letter × Cursor) :=
        match quotedWord double fuel c with
        | .ok (rest, c) => .ok (chars.map .char ++ letters ++ rest, c)
        | .error e => .error e
      if !double ∧ ch = '\'' ∧ c.peekAt 1 = '\'' then more [.char '\''] (c.forward 2)
      else if (double ∧ ch = '\'') ∨ (!double ∧ (ch = '"' ∨ ch = '\\')) then more [.char ch] c.step
      else if double ∧ ch = '\\' then
        match readEscape c.step with
        | .ok (letters, c) => more letters c
        | .error e => .error e
      else .ok (chars.map .char, c)

/-- White space inside quotes: a single line break is a blank, others are kept. -/
def quotedSpaces (c : Cursor) : Except Failure (List Char × Cursor) :=
  let (blanks, c) := c.span fun ch => ch = ' ' || ch = '\t'
  if c.peek = '\x00' then noToken c
  else if isBreak c.peek then
    let (br, c) := c.lineBreak
    match quotedBreaks (c.rest.length + 1) c with
    | .ok (breaks, c) =>
        let first := if br ≠ ['\n'] then br else if breaks = [] then [' '] else []
        .ok (first ++ breaks, c)
    | .error e => .error e
  else .ok (blanks, c)

/-- The letters of a quoted scalar after its first word, up to the closing quote. -/
def quotedRest (double : Bool) (quote : Char) :
    Nat → Cursor → Except Failure (List Letter × Cursor)
  | 0, c => noToken c
  | fuel + 1, c =>
      if c.peek = quote then .ok ([], c.step)
      else
        match quotedSpaces c with
        | .error e => .error e
        | .ok (spaces, c) =>
            match quotedWord double (c.rest.length + 1) c with
            | .error e => .error e
            | .ok (word, c) =>
                match quotedRest double quote fuel c with
                | .error e => .error e
                | .ok (rest, c) => .ok (spaces.map .char ++ word ++ rest, c)

/-- A quoted scalar, from its opening quote. -/
def readQuoted (double : Bool) (c : Cursor) : Except Failure (Token × Cursor) :=
  let quote := if double then '"' else '\''
  let c := c.step
  match quotedWord double (c.rest.length + 1) c with
  | .error e => .error e
  | .ok (word, c) =>
      match quotedRest double quote (c.rest.length + 1) c with
      | .error e => .error e
      | .ok (rest, c) =>
          .ok (.scalar (.ofLetters (word ++ rest))
            (if double then .doubleQuoted else .singleQuoted), c)

/-! ### Plain scalars -/

/-- Whether a plain scalar ends before a character, the next one being `next`. -/
def endsPlain (inFlow : Bool) (ch next : Char) : Bool :=
  isBlankOrEnd ch
    || (ch = ':' && (isBlankOrEnd next || (inFlow && next ∈ [',', '[', ']', '\x7b', '\x7d'])))
    || (inFlow && ch ∈ [',', '?', '[', ']', '\x7b', '\x7d'])

/-- The characters of a plain scalar up to its end or white space. -/
def plainWord (inFlow : Bool) : List Char → List Char
  | [] => []
  | ch :: rest =>
      if endsPlain inFlow ch (rest.headD '\x00') then [] else ch :: plainWord inFlow rest

/-- Line breaks and blanks after a line of a plain scalar; nothing if a document separator
follows. -/
def plainBreaks : Nat → Cursor → Option (List Char) × Cursor
  | 0, c => (some [], c)
  | fuel + 1, c =>
      if c.peek = ' ' then plainBreaks fuel c.step
      else if isBreak c.peek then
        let (br, c) := c.lineBreak
        if c.atSeparator then (none, c)
        else
          let (more, c) := plainBreaks fuel c
          (more.map (br ++ ·), c)
      else (some [], c)

/-- White space after a word of a plain scalar, whether it breaks the line, and the cursor after
it; no text ends the scalar. -/
def plainSpaces (c : Cursor) : List Char × Bool × Cursor :=
  let (blanks, c) := c.span (· = ' ')
  if isBreak c.peek then
    let (br, c) := c.lineBreak
    if c.atSeparator then ([], true, c)
    else
      match plainBreaks (c.rest.length + 1) c with
      | (none, c) => ([], true, c)
      | (some breaks, c) =>
          let first := if br ≠ ['\n'] then br else if breaks = [] then [' '] else []
          (first ++ breaks, true, c)
  else (blanks, false, c)

/-- The words of a plain scalar after `spaces`, whether any was found, whether the line was broken
after the last one, and the cursor. -/
def plainWords (inFlow : Bool) (indent : Int) :
    Nat → List Char → Cursor → List Char × Bool × Bool × Cursor
  | 0, _, c => ([], false, false, c)
  | fuel + 1, spaces, c =>
      if c.peek = '#' then ([], false, false, c)
      else
        let word := plainWord inFlow c.rest
        if word = [] then ([], false, false, c)
        else
          let (after, broke, c) := plainSpaces (c.forward word.length)
          if after = [] ∨ c.peek = '#' ∨ (!inFlow ∧ (c.column : Int) < indent) then
            (spaces ++ word, true, broke, c)
          else
            match plainWords inFlow indent fuel after c with
            | (more, true, brokeLater, c) => (spaces ++ word ++ more, true, brokeLater, c)
            | (_, false, _, c) => (spaces ++ word, true, broke, c)

/-- A plain scalar, whether the line was broken after it, and the cursor. -/
def readPlain (inFlow : Bool) (indent : Int) (c : Cursor) : Token × Bool × Cursor :=
  let (text, _, broke, c) := plainWords inFlow indent (c.rest.length + 1) [] c
  (.scalar (String.ofList text) .plain, broke, c)

end EntryTemplates.Document
