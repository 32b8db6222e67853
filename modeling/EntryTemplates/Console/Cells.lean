/-
**How much room a text takes in a terminal.**

A terminal consists of cells.  Most characters take one of them, some two and some none; a joiner
draws the character after it into the one before it, and variation selector 16 turns some narrow
characters into wide pictures.  What is drawn in one place is a cluster.

Main definitions:

* `EntryTemplates.Console.Glyph` — a letter that is drawn, and what is wrong with its style;
* `EntryTemplates.Console.cells` — the cells of a text;
* `EntryTemplates.Console.clusters` — its clusters, none of which may be cut;
* `EntryTemplates.Console.fit` — a text cut or filled to a number of cells;
* `EntryTemplates.Console.chop` — a text cut into pieces of limited width.
-/

import EntryTemplates.Console.Style
import EntryTemplates.Text.Loose
import EntryTemplates.Text.WidthTable

set_option relaxedAutoImplicit false
set_option autoImplicit false

namespace EntryTemplates.Console

/-- A letter that is drawn, and why the style that it is drawn in cannot be read, if so. -/
structure Glyph where
  letter : Text.Letter
  trouble : Option NoNumber := none
  deriving DecidableEq, Repr, Inhabited

namespace Glyph

/-- A character in no style. -/
def ofChar (c : Char) : Glyph := { letter := .char c }

instance : Coe Char Glyph := ⟨ofChar⟩

/-- The character that a glyph looks like. -/
def char (g : Glyph) : Char := g.letter.shape

/-- A blank in the style of a glyph. -/
def blank (g : Glyph) : Glyph := { g with letter := .char ' ' }

end Glyph

/-- Glyphs for characters in no style. -/
def glyphs (s : List Char) : List Glyph := s.map Glyph.ofChar

/-- A number of blanks. -/
def blanks (n : Nat) : List Glyph := List.replicate n (Glyph.ofChar ' ')

/-- The zero-width joiner. -/
def joiner : Char := '\u200d'

/-- Variation selector 16, which asks for a picture. -/
def pictureSelector : Char := '\ufe0f'

/-- The cells of a character that stands alone. -/
def charCells (c : Char) : Nat :=
  if 0x20 ≤ c.toNat ∧ c.toNat < 0x7F then 1
  else
    match Text.widthRows.find? fun (first, last, _) => first ≤ c.toNat && c.toNat ≤ last with
    | some (_, _, n) => n
    | none => 1

/-- Whether variation selector 16 widens a character. -/
def isWidened (c : Char) : Bool := Text.widenedByVariation.contains c.toNat

/-- The cells of a text that stands after the visible character `last`, if there is one. -/
def cellsAfter (last : Option Char) : List Char → Nat
  | [] => 0
  | [c] => if c = pictureSelector then (if last.any isWidened then 1 else 0) else charCells c
  | c :: d :: rest =>
      if c = joiner then cellsAfter last rest
      else if c = pictureSelector then
        (if last.any isWidened then 1 else 0) + cellsAfter none (d :: rest)
      else charCells c + cellsAfter (if charCells c = 0 then last else some c) (d :: rest)

/-- **The cells of a text.** -/
def cells (s : List Glyph) : Nat := cellsAfter none (s.map Glyph.char)

/-! ### Clusters -/

/-- Glyphs that are drawn in one place, and the cells they take. -/
structure Cluster where
  glyphs : List Glyph
  cells : Nat
  deriving DecidableEq, Repr, Inhabited

/-- A cluster with further glyphs, which take no cells of their own. -/
def Cluster.join (k : Cluster) (s : List Glyph) : Cluster := { k with glyphs := k.glyphs ++ s }

/-- The clusters of a text, where the cluster `k` has begun and `last` is the visible character
before the text. -/
def clustersFrom (k : Cluster) (last : Option Char) : List Glyph → List Cluster
  | [] => [k]
  | [g] =>
      if g.char = joiner then [k.join [g]]
      else if g.char = pictureSelector then
        [⟨k.glyphs ++ [g], k.cells + if last.any isWidened then 1 else 0⟩]
      else if charCells g.char = 0 then [k.join [g]]
      else [k, ⟨[g], charCells g.char⟩]
  | g :: h :: rest =>
      if g.char = joiner then clustersFrom (k.join [g, h]) last rest
      else if g.char = pictureSelector then
        if last.any isWidened then clustersFrom ⟨k.glyphs ++ [g], k.cells + 1⟩ none (h :: rest)
        else clustersFrom (k.join [g]) last (h :: rest)
      else if charCells g.char = 0 then clustersFrom (k.join [g]) last (h :: rest)
      else k :: clustersFrom ⟨[g], charCells g.char⟩ (some g.char) (h :: rest)

/-- **The clusters of a text.** -/
def clusters : List Glyph → List Cluster
  | [] => []
  | g :: rest =>
      let n := if g.char = joiner ∨ g.char = pictureSelector then 0 else charCells g.char
      clustersFrom ⟨[g], n⟩ (if n = 0 then none else some g.char) rest

/-! ### Cutting and filling -/

/-- The first cells of a text, given by its clusters; a blank stands for a wide cluster of which
only one half has room. -/
def takeCells : Nat → List Cluster → List Glyph
  | _, [] => []
  | room, k :: ks =>
      if room = 0 then []
      else if k.cells ≤ room then k.glyphs ++ takeCells (room - k.cells) ks
      else blanks 1

/-- **A text cut or filled to a number of cells.** -/
def fit (width : Nat) (s : List Glyph) : List Glyph :=
  if width = 0 then []
  else if cells s ≤ width then s ++ blanks (width - cells s)
  else takeCells width (clusters s)

/-- The pieces of a text of limited width, the first of which has begun with `line`. -/
def chopFrom (width : Nat) (line : List Glyph) (used : Nat) : List Cluster → List (List Glyph)
  | [] => if used = 0 then [] else [line]
  | k :: ks =>
      if used + k.cells ≤ width then chopFrom width (line ++ k.glyphs) (used + k.cells) ks
      else line :: chopFrom width k.glyphs k.cells ks

/-- **A text cut into pieces that take at most `width` cells.** -/
def chop (width : Nat) (s : List Glyph) : List (List Glyph) := chopFrom width [] 0 (clusters s)

end EntryTemplates.Console
