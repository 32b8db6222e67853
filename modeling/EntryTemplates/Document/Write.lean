/-
**Writing texts as a YAML document.**

The document is a block mapping from names to texts, one entry a line.  A text stands plain if it
reads back as that text, otherwise in single quotes, and in double quotes if it holds characters
that have to be escaped or blanks next to a line break.  Lines are folded at blanks beyond eighty
columns, and continued with an indentation of two.

Main definitions:

* `EntryTemplates.Document.Traits` — what decides how a text may be written;
* `EntryTemplates.Document.Form`, `EntryTemplates.Document.formOf` — how a text is written;
* `EntryTemplates.Document.write` — the document.
-/

import EntryTemplates.Document.Cursor
import EntryTemplates.Document.Tag
import EntryTemplates.Text.Quoted

set_option relaxedAutoImplicit false
set_option autoImplicit false

namespace EntryTemplates.Document

/-! ### Traits of a text -/

/-- What decides how a text may be written. -/
structure Traits where
  /-- A character that would not be read as part of a plain text. -/
  hasIndicator : Bool
  hasBreak : Bool
  /-- A character that has to be escaped. -/
  hasSpecial : Bool
  /-- A blank or a line break at either end. -/
  hasOuterSpace : Bool
  /-- A blank next to a line break. -/
  hasSpaceAtBreak : Bool
  deriving DecidableEq, Repr

/-- The line breaks that a written text keeps. -/
def isKeptBreak (c : Char) : Bool := c = '\n' || c = '\u0085' || c = '\u2028' || c = '\u2029'

/-- Whether the next character, if there is one, is white space. -/
def spaceAhead (s : List Char) : Bool :=
  match s with
  | [] => true
  | c :: _ => isBlankOrEnd c

/-- Whether a text begins with a character that no plain text begins with. -/
def startsWithIndicator (s : List Char) : Bool :=
  match s with
  | [] => false
  | c :: rest =>
      c ∈ "#,[]\x7b\x7d&*!|>'\"%@\x60".toList
        || ((c = '?' || c = ':' || c = '-') && spaceAhead rest)
        || "---".toList.isPrefixOf s || "...".toList.isPrefixOf s

/-- Whether a character that no plain text holds stands after another one. -/
def holdsIndicator : List Char → Bool
  | a :: b :: rest =>
      (b = ':' && spaceAhead rest) || (b = '#' && isBlankOrEnd a) || holdsIndicator (b :: rest)
  | _ => false

/-- Whether a character has to be escaped. -/
def isSpecial (c : Char) : Bool :=
  let n := c.toNat
  !(c = '\n' || (0x20 ≤ n && n ≤ 0x7E))
    && !((n = 0x85 || (0xA0 ≤ n && n ≤ 0xFFFD) || (0x10000 ≤ n && n < 0x10FFFF)) && n ≠ 0xFEFF)

/-- Whether a blank stands next to a line break. -/
def holdsSpaceAtBreak : List Char → Bool
  | a :: b :: rest =>
      (a = ' ' && isKeptBreak b) || (isKeptBreak a && b = ' ') || holdsSpaceAtBreak (b :: rest)
  | _ => false

/-- Whether a character is a blank or a line break. -/
def isOuterSpace (c : Char) : Bool := c = ' ' || isKeptBreak c

/-- The traits of a text. -/
def Traits.of (s : List Char) : Traits :=
  { hasIndicator := startsWithIndicator s || holdsIndicator s
    hasBreak := s.any isKeptBreak
    hasSpecial := s.any isSpecial
    hasOuterSpace := s.head?.any isOuterSpace || s.getLast?.any isOuterSpace
    hasSpaceAtBreak := holdsSpaceAtBreak s }

/-- How a text is written. -/
inductive Form where
  | plain
  | single
  | double
  deriving DecidableEq, Repr

/-- **How a text is written.** -/
def formOf (s : String) : Form :=
  let t := Traits.of s.toList
  if t.hasSpecial ∨ t.hasSpaceAtBreak then .double
  else if resolve s = .str ∧ !t.hasIndicator ∧ !t.hasBreak ∧ !t.hasOuterSpace then .plain
  else .single

/-! ### Plain and single-quoted texts -/

/-- The column beyond which lines are folded. -/
def foldColumn : Nat := 80

/-- The beginning of a continued line. -/
def continuation : List Char := ['\n', ' ', ' ']

/-- The column at which a continued line begins. -/
def continuationColumn : Nat := 2

/-- A line break inside single quotes: the first of several line feeds is written twice, as a
single one would be read as a blank. -/
def writtenBreaks (breaks : List Char) : List Char :=
  (if breaks.head? = some '\n' then ['\n'] else []) ++ breaks ++ [' ', ' ']

/-- A character other than a blank or a line break, inside single quotes. -/
def singleChar (c : Char) : List Char := if c = '\'' then ['\'', '\''] else [c]

/-- A text from `column` on, where `inside` tells that something stands before it.  `escape` writes
single characters. -/
def foldedFrom (escape : Char → List Char) : Nat → Bool → Nat → List Char → List Char
  | 0, _, _, _ => []
  | _ + 1, _, _, [] => []
  | fuel + 1, inside, column, c :: rest =>
      if c = ' ' then
        let more := rest.takeWhile (· = ' ')
        let after := rest.dropWhile (· = ' ')
        if more = [] ∧ foldColumn < column ∧ inside ∧ after ≠ [] then
          continuation ++ foldedFrom escape fuel true continuationColumn after
        else c :: more ++ foldedFrom escape fuel true (column + 1 + more.length) after
      else if isKeptBreak c then
        let more := rest.takeWhile isKeptBreak
        writtenBreaks (c :: more)
          ++ foldedFrom escape fuel true continuationColumn (rest.dropWhile isKeptBreak)
      else
        let written := escape c
        written ++ foldedFrom escape fuel true (column + written.length) rest

/-- A text from `column` on. -/
def folded (escape : Char → List Char) (column : Nat) (s : List Char) : List Char :=
  foldedFrom escape (s.length + 1) false column s

/-! ### Double-quoted texts -/

/-- The letter that names a character after a backslash. -/
def escapeLetter? (c : Char) : Option Char :=
  match c with
  | '\x00' => some '0'
  | '\x07' => some 'a'
  | '\x08' => some 'b'
  | '\t' => some 't'
  | '\n' => some 'n'
  | '\x0B' => some 'v'
  | '\x0C' => some 'f'
  | '\r' => some 'r'
  | '\x1B' => some 'e'
  | '"' => some '"'
  | '\\' => some '\\'
  | '\u0085' => some 'N'
  | '\u00A0' => some '_'
  | '\u2028' => some 'L'
  | '\u2029' => some 'P'
  | _ => none

/-- Whether a character stands for itself inside double quotes. -/
def standsForItself (c : Char) : Bool :=
  let n := c.toNat
  !(c = '"' || c = '\\' || isKeptBreak c || n = 0xFEFF)
    && ((0x20 ≤ n && n ≤ 0x7E) || (0xA0 ≤ n && n ≤ 0xFFFD))

/-- A number in upper-case hexadecimal digits. -/
def upperHex (width n : Nat) : List Char := (Text.hexDigits width n).map Char.toUpper

/-- A character by its name or its code. -/
def doubleEscape (c : Char) : List Char :=
  match escapeLetter? c with
  | some letter => ['\\', letter]
  | none =>
      let n := c.toNat
      if n < 0x100 then '\\' :: 'x' :: upperHex 2 n
      else if n < 0x10000 then '\\' :: 'u' :: upperHex 4 n
      else '\\' :: 'U' :: upperHex 8 n

/-- The end of a line inside double quotes before `next`, and the column after it; a blank that
begins the next line is marked. -/
def doubleFold (next : List Char) : List Char × Nat :=
  if next.head? = some ' ' then ('\\' :: continuation ++ ['\\'], continuationColumn + 1)
  else ('\\' :: continuation, continuationColumn)

/-- A text inside double quotes from `column` on.  `inside` tells that something stands before it,
and `mayFold` that the line may end here even if no blank follows. -/
def doubleQuoted (inside mayFold : Bool) (column : Nat) : List Char → List Char
  | [] => []
  | c :: rest =>
      if standsForItself c then
        if inside ∧ rest ≠ [] ∧ (c = ' ' ∨ mayFold) ∧ foldColumn < column then
          let (written, start) := doubleFold (c :: rest)
          written ++ c :: doubleQuoted true false (start + 1) rest
        else c :: doubleQuoted true false (column + 1) rest
      else
        let written := doubleEscape c
        let column := column + written.length
        if inside ∧ rest ≠ [] ∧ foldColumn < column - 1 then
          let (ending, start) := doubleFold rest
          written ++ ending ++ doubleQuoted true true start rest
        else written ++ doubleQuoted true true column rest

/-! ### Documents -/

/-- A text as the value of an entry, from `column` on. -/
def scalarText (column : Nat) (s : String) : List Char :=
  match formOf s with
  | .plain => ' ' :: folded (fun c => [c]) (column + 1) s.toList
  | .single => ' ' :: '\'' :: folded singleChar (column + 2) s.toList ++ ['\'']
  | .double => ' ' :: '"' :: doubleQuoted false true (column + 2) s.toList ++ ['"']

/-- One entry: a name and a text. -/
def entryText (entry : String × String) : List Char :=
  let name := entry.1.toList
  name ++ ':' :: scalarText (name.length + 1) entry.2 ++ ['\n']

/-- **The document for names and texts.** -/
def write (entries : List (String × String)) : String :=
  String.ofList (entries.flatMap entryText)

end EntryTemplates.Document
