/-
**Text in lines of limited width.**

A line that is too long is broken before words; a word stands together with the white space after
it.  What still does not fit is folded into further lines or cut, where an ellipsis stands for what
was cut.

Main definitions:

* `EntryTemplates.Console.Painted` — a text in styles;
* `EntryTemplates.Console.Layout` — how a text is laid out;
* `EntryTemplates.Console.wordsOf` — the words of a line;
* `EntryTemplates.Console.broken` — a line broken before words;
* `EntryTemplates.Console.lines` — **the lines of a text**;
* `EntryTemplates.Console.marksLeft` — the empty stretches of a text that are left in its lines.
-/

import EntryTemplates.Console.Cells
import EntryTemplates.Text.Blank
import EntryTemplates.Text.Search

set_option relaxedAutoImplicit false
set_option autoImplicit false

namespace EntryTemplates.Console

/-- An empty stretch of a text in a style that cannot be read. -/
structure Mark where
  position : Nat
  trouble : NoNumber
  deriving DecidableEq, Repr

/-- A text in styles. -/
structure Painted where
  glyphs : List Glyph
  marks : List Mark := []
  deriving DecidableEq, Repr

/-- Where a line stands in its room. -/
inductive Side where
  /-- It begins at the left and is not filled. -/
  | free
  | left
  | right
  deriving DecidableEq, Repr

/-- How a text is laid out. -/
structure Layout where
  /-- Whether lines that are too long are broken. -/
  breaks : Bool
  /-- Whether words that are too long are folded; they are cut otherwise. -/
  folds : Bool
  side : Side
  deriving DecidableEq, Repr

/-! ### Lines and tabs -/

/-- The lines of a text, the first of which has begun with `begun` (in reverse). -/
def splitLinesFrom (begun : List Glyph) : List Glyph → List (List Glyph)
  | [] => [begun.reverse]
  | g :: rest =>
      if g.char = '\n' then begun.reverse :: splitLinesFrom [] rest
      else splitLinesFrom (g :: begun) rest

/-- The lines of a text; there is always at least one. -/
def splitLines (s : List Glyph) : List (List Glyph) := splitLinesFrom [] s

/-- A line with blanks in place of tabs, up to the next multiple of eight cells; `used` cells stand
before it, and `begun` (in reverse) stands since the last tab. -/
def withoutTabsFrom (used : Nat) (begun : List Glyph) : List Glyph → List Glyph
  | [] => begun.reverse
  | g :: rest =>
      if g.char = '\t' then
        let part := (g.blank :: begun).reverse
        let fill := (8 - (used + cells part) % 8) % 8
        part ++ List.replicate fill g.blank ++ withoutTabsFrom (used + cells part + fill) [] rest
      else withoutTabsFrom used (g :: begun) rest

/-- A line with blanks in place of tabs. -/
def withoutTabs (s : List Glyph) : List Glyph := withoutTabsFrom 0 [] s

/-! ### Breaking -/

/-- A line without the white space at its end. -/
def trimEnd (s : List Glyph) : List Glyph :=
  (s.reverse.dropWhile fun g => Text.isBlank g.char).reverse

/-- The words of a line, each with the white space after it; white space before the first word
belongs to it. -/
def wordsOf (s : List Glyph) : List (List Glyph) :=
  match s.splitBy fun a b => !Text.isBlank a.char || Text.isBlank b.char with
  | first :: second :: rest =>
      if first.all fun g => Text.isBlank g.char then (first ++ second) :: rest
      else first :: second :: rest
  | groups => groups

/-- Lines that are finished, and the last one with the cells it takes. -/
structure Broken where
  finished : List (List Glyph)
  current : List Glyph
  used : Nat

namespace Broken

/-- No line. -/
def start : Broken := ⟨[], [], 0⟩

/-- Whether there is any text. -/
def hasText (b : Broken) : Bool := !b.finished.isEmpty || !b.current.isEmpty

/-- The lines after a text that begins a line of its own. -/
def next (b : Broken) (s : List Glyph) : Broken :=
  if b.hasText then ⟨b.finished ++ [b.current], s, cells s⟩ else ⟨[], s, cells s⟩

/-- The lines after a word. -/
def addWord (folds : Bool) (width : Nat) (b : Broken) (word : List Glyph) : Broken :=
  let size := cells (trimEnd word)
  if b.used + size ≤ width then { b with current := b.current ++ word, used := b.used + cells word }
  else if folds && width < size then (chop width word).foldl next b
  else b.next word

/-- All lines. -/
def all (b : Broken) : List (List Glyph) := b.finished ++ [b.current]

end Broken

/-- **A line broken before words.** -/
def broken (folds : Bool) (width : Nat) (s : List Glyph) : List (List Glyph) :=
  ((wordsOf s).foldl (Broken.addWord folds width) .start).all

/-! ### Cutting and filling -/

/-- A line without as much of the white space at its end as makes it longer than `width`
characters. -/
def dropOverhang (width : Nat) (s : List Glyph) : List Glyph :=
  let blanks := (s.reverse.takeWhile fun g => Text.isBlank g.char).length
  s.take (s.length - min blanks (s.length - width))

/-- A line in the styles of another one, place by place. -/
def styledAs (old s : List Glyph) : List Glyph :=
  s.mapIdx fun i g => { g with trouble := old[i]?.bind Glyph.trouble }

/-- A line cut where it is too long; without folding an ellipsis stands at its end. -/
def cut (folds : Bool) (width : Nat) (s : List Glyph) : List Glyph :=
  if cells s ≤ width then s
  else styledAs s (if folds then fit width s else fit (width - 1) s ++ glyphs ['…'])

/-- A line at its place. -/
def placed (l : Layout) (width : Nat) (s : List Glyph) : List Glyph :=
  match l.side with
  | .free => cut l.folds width s
  | .left =>
      let line := cut l.folds width s
      line ++ blanks (width - cells line)
  | .right =>
      let line := cut l.folds width (trimEnd s)
      blanks (width - cells line) ++ line

/-- The parts of a line, broken if it may be. -/
def partsOf (l : Layout) (width : Nat) (line : List Glyph) : List (List Glyph) :=
  if l.breaks then broken l.folds width line else [line]

/-- **The lines of a text** in a room of so many cells. -/
def lines (l : Layout) (width : Nat) (s : List Glyph) : List (List Glyph) :=
  (splitLines s).flatMap fun line =>
    (partsOf l width (withoutTabs line)).map fun part => placed l width (dropOverhang width part)

/-- The marks that are left where a line was shortened. -/
def marksWithin (old new : List Glyph) (marks : List Mark) : List Mark :=
  if new.length < old.length then marks.filter fun m => m.position < new.length else marks

/-- **The empty stretches of a text that are left in its lines**: none unless it makes a single line
that is not taken apart. -/
def marksLeft (l : Layout) (width : Nat) (p : Painted) : List Mark :=
  if p.glyphs.any fun g => g.char = '\n' || g.char = '\t' then []
  else
    match partsOf l width p.glyphs with
    | [_] =>
        let short := dropOverhang width p.glyphs
        let bare := if l.side = .right then trimEnd short else short
        marksWithin bare (cut l.folds width bare)
          (marksWithin short bare (marksWithin p.glyphs short p.marks))
    | _ => []

/-- Why the lines of a text cannot be drawn, if so. -/
def trouble? (l : Layout) (width : Nat) (p : Painted) : Option NoNumber :=
  ((lines l width p.glyphs).flatten.findSome? Glyph.trouble).or
    ((marksLeft l width p).head?.map Mark.trouble)

end EntryTemplates.Console
