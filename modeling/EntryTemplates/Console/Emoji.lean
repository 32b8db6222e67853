/-
**Pictures in place of their names.**

A name between colons, such as `:smile:`, stands for a picture.  A name may end in `-text` or
`-emoji`, which asks for one of the two ways to draw it.

Main definitions:

* `EntryTemplates.Console.picture?` — the picture of a name;
* `EntryTemplates.Console.withPictures` — a text with pictures in place of their names.
-/

import EntryTemplates.Console.EmojiTable
import EntryTemplates.Text.Blank
import EntryTemplates.Text.Case
import EntryTemplates.Text.Loose
import EntryTemplates.Text.Search

set_option relaxedAutoImplicit false
set_option autoImplicit false

namespace EntryTemplates.Console

/-- What follows a name and a blank in the table of pictures. -/
def glyph? (name : List Char) : Option (List Char) :=
  (Text.splitAtChar '\n' emojiNames.toList).findSome? (Text.dropPrefix? (name ++ [' ']))

/-- A text without a given end. -/
def withoutEnd? (ending s : List Char) : Option (List Char) :=
  (Text.dropPrefix? ending.reverse s.reverse).map List.reverse

/-- A name without the way to draw its picture, and the variation selector for that way. -/
def drawing (name : List Char) : List Char × List Char :=
  match withoutEnd? "-text".toList name with
  | some bare => (bare, ['\ufe0e'])
  | none =>
      match withoutEnd? "-emoji".toList name with
      | some bare => (bare, ['\ufe0f'])
      | none => (name, [])

/-- **The picture of a name.** -/
def picture? (name : List Char) : Option (List Char) :=
  let (bare, selector) := drawing name
  if bare.isEmpty then none
  else (glyph? (Text.lower bare)).map fun glyph => glyph ++ selector

/-- The name that a text begins with, if a colon ends it before any white space. -/
def nameBefore? (s : List Text.Letter) : Option (List Text.Letter) :=
  let name := s.takeWhile fun c => c.shape ≠ ':' && !Text.isBlank c.shape
  match s.drop name.length with
  | c :: _ => if c.shape = ':' then some name else none
  | [] => none

/-- A text with pictures in place of their names, the first `skip` letters left out. -/
def picturesAfter : Nat → List Text.Letter → List Text.Letter
  | _, [] => []
  | skip + 1, _ :: rest => picturesAfter skip rest
  | 0, c :: rest =>
      if c.shape = ':' then
        match nameBefore? rest with
        | some name =>
            match picture? (name.map Text.Letter.shape) with
            | some picture => picture.map .char ++ picturesAfter (name.length + 1) rest
            | none => c :: name ++ .char ':' :: picturesAfter (name.length + 1) rest
        | none => c :: picturesAfter 0 rest
      else c :: picturesAfter 0 rest

/-- **A text with pictures in place of their names**; an unknown name stays as it is. -/
def withPictures (s : List Text.Letter) : List Text.Letter := picturesAfter 0 s

end EntryTemplates.Console
