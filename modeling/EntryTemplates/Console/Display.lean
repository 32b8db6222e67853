/-
**What a console shows.**

Main definitions:

* `EntryTemplates.Console.Display` — a text, a text in a frame, a table, or characters as they are;
* `EntryTemplates.Console.Display.render` — its text on a console of so many cells;
* `EntryTemplates.Console.withoutControls` — a text without the sequences that control a terminal;
* `EntryTemplates.Console.shown` — several things one after another, up to the first that cannot be
  shown.
-/

import EntryTemplates.Console.Table

set_option relaxedAutoImplicit false
set_option autoImplicit false

namespace EntryTemplates.Console

/-- What a console shows. -/
inductive Display where
  /-- A text with tags. -/
  | text (markup : String)
  /-- A text with tags in a frame. -/
  | panel (markup : String)
  | table (t : Table)
  /-- Characters as they are, without the sequences that control a terminal. -/
  | raw (s : Text.Loose)
  deriving DecidableEq, Repr

/-- How text outside tables is laid out. -/
def Layout.standard : Layout := ⟨true, true, .free⟩

/-- The lines of a text, if it can be drawn. -/
def drawLines (l : Layout) (width : Nat) (p : Painted) : Except Problem (List (List Glyph)) :=
  match trouble? l width p with
  | some n => .error (.colour n)
  | none => .ok (lines l width p.glyphs)

/-- The lines of a text in a frame. -/
def panelLines (width : Nat) (p : Painted) : Except Problem (List (List Glyph)) := do
  let room := width - 2
  let inner := neededWidth room (longestLine p.glyphs)
  let body ← if inner ≤ 2 then pure [] else drawLines ⟨true, true, .left⟩ (inner - 2) p
  let all := [ruler '╭' '─' '╮' [inner]]
    ++ body.map (fun line => glyphs ['│', ' '] ++ line ++ glyphs [' ', '│'])
    ++ [ruler '╰' '─' '╯' [inner]]
  return all.map (clipped width)

/-! ### Sequences that control a terminal -/

/-- The length of a controlling sequence after its escape character: a bracket, digits and
punctuation, a letter. -/
def controlLength? : List Char → Option Nat
  | '[' :: rest =>
      let inner := rest.takeWhile fun c => c = ';' || c = '?' || c.isDigit
      match rest.drop inner.length with
      | c :: _ => if c.isAlpha then some (inner.length + 2) else none
      | [] => none
  | _ => none

/-- A text without controlling sequences and without its first `skip` characters. -/
def withoutControlsAfter : Nat → List Char → List Char
  | _, [] => []
  | skip + 1, _ :: rest => withoutControlsAfter skip rest
  | 0, c :: rest =>
      if c = '\x1b' then
        match controlLength? rest with
        | some n => withoutControlsAfter n rest
        | none => c :: withoutControlsAfter 0 rest
      else c :: withoutControlsAfter 0 rest

/-- A text without the sequences that control a terminal. -/
def withoutControls (s : List Char) : List Char := withoutControlsAfter 0 s

@[simp] theorem withoutControls_nil : withoutControls [] = [] := rfl

/-! ### Showing -/

/-- A text with halves without the sequences that control a terminal, none of which holds a half. -/
def looseWithoutControls (t : Text.Loose) : Text.Loose where
  shape := String.ofList (withoutControls t.shape.toList)
  halves := t.halves.map fun h =>
    { h with position := (withoutControls (t.shape.toList.take h.position)).length }

/-- The letters of a line, and its end. -/
def lineLetters (line : List Glyph) : List Text.Letter := line.map Glyph.letter ++ [.char '\n']

/-- The text of lines, if it can be put out. -/
def linesText (lines : List (List Glyph)) : Except Problem String :=
  (Text.Loose.ofLetters (lines.flatMap lineLetters)).whole.mapError .halved

/-- **The text of what is shown** on a console of so many cells. -/
def Display.render (width : Nat) : Display → Except Problem String
  | .text markup => do linesText (← drawLines .standard width (← Markup.read markup))
  | .panel markup => do linesText (← panelLines width (← Markup.read markup))
  | .table t => do linesText (← t.render width)
  | .raw s => (looseWithoutControls s).whole.mapError .halved

/-- **Several things one after another**, up to the first that cannot be shown. -/
def shown (width : Nat) : List Display → String × Option Problem
  | [] => ("", none)
  | d :: ds =>
      match d.render width with
      | .ok text =>
          let (more, problem) := shown width ds
          (text ++ more, problem)
      | .error problem => ("", some problem)

end EntryTemplates.Console
