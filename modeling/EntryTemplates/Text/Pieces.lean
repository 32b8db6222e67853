/-
**Taking texts apart at other texts, and putting other texts in.**

Main definitions:

* `EntryTemplates.Text.splitAround?` — what stands before and after a text inside another one;
* `EntryTemplates.Text.splitOn`, `EntryTemplates.Text.splitBlank` — the pieces between occurrences
  of a text, or between white space;
* `EntryTemplates.Text.replaceText` — a text with occurrences of another one replaced;
* `EntryTemplates.Text.padded` — a text with characters around it.
-/

import EntryTemplates.Text.Blank
import EntryTemplates.Text.Case
import EntryTemplates.Text.Search

set_option relaxedAutoImplicit false
set_option autoImplicit false

namespace EntryTemplates.Text

/-- What stands before and after the first occurrence of `mark`. -/
def splitAround? (mark : List Char) : List Char → Option (List Char × List Char)
  | [] => if mark.isEmpty then some ([], []) else none
  | c :: rest =>
      match dropPrefix? mark (c :: rest) with
      | some after => some ([], after)
      | none => (splitAround? mark rest).map fun (before, after) => (c :: before, after)

/-- The pieces between at most `count` occurrences of `mark`, from the first one on. -/
def splitOn (mark : List Char) : Nat → List Char → List (List Char)
  | 0, s => [s]
  | count + 1, s =>
      match splitAround? mark s with
      | some (before, after) => before :: splitOn mark count after
      | none => [s]

/-- The pieces between at most `count` occurrences of `mark`, from the last one back. -/
def splitOnBack (mark : List Char) (count : Nat) (s : List Char) : List (List Char) :=
  ((splitOn mark.reverse count s.reverse).map List.reverse).reverse

/-- The pieces between white space, at most `count` of them taken off the rest. -/
def splitBlank : Nat → List Char → List (List Char)
  | count, s =>
      let body := trimStart s
      if body.isEmpty then []
      else
        match count with
        | 0 => [trimEnd body]
        | count + 1 =>
            body.takeWhile (fun c => !isBlank c)
              :: splitBlank count (body.dropWhile fun c => !isBlank c)

/-- The pieces between white space, taken off the end. -/
def splitBlankBack (count : Nat) (s : List Char) : List (List Char) :=
  ((splitBlank count s.reverse).map List.reverse).reverse

/-- A text with `new` before each of its first characters, and at its end. -/
def interleave (new : List Char) : Nat → List Char → List Char
  | 0, s => s
  | _ + 1, [] => new
  | count + 1, c :: rest => new ++ c :: interleave new count rest

/-- **A text with at most `count` occurrences of `old` replaced by `new`.** -/
def replaceText (old new : List Char) (count : Nat) (s : List Char) : List Char :=
  if old.isEmpty then interleave new count s else joinWith new (splitOn old count s)

/-- How often a text occurs in another one, without overlaps. -/
def occurrences (needle s : List Char) : Nat :=
  if needle.isEmpty then s.length + 1 else (splitOn needle s.length s).length - 1

/-- The place of the first occurrence. -/
def find? (needle s : List Char) : Option Nat :=
  (splitAround? needle s).map fun (before, _) => before.length

/-- The place of the last occurrence. -/
def findBack? (needle s : List Char) : Option Nat :=
  (find? needle.reverse s.reverse).map fun n => s.length - n - needle.length

/-- A text between characters. -/
def padded (fill : Char) (before after : Nat) (s : List Char) : List Char :=
  List.replicate before fill ++ s ++ List.replicate after fill

/-- A text in the middle of `width` characters; an odd one goes before the text if the width is odd
and behind it otherwise. -/
def centered (fill : Char) (width : Nat) (s : List Char) : List Char :=
  let extra := width - s.length
  let before := extra / 2 + (if extra % 2 = 1 ∧ width % 2 = 1 then 1 else 0)
  padded fill before (extra - before) s

/-- A text at the start of `width` characters. -/
def leftAligned (fill : Char) (width : Nat) (s : List Char) : List Char :=
  padded fill 0 (width - s.length) s

/-- A text at the end of `width` characters. -/
def rightAligned (fill : Char) (width : Nat) (s : List Char) : List Char :=
  padded fill (width - s.length) 0 s

/-- A text without the given characters at its start. -/
def stripStart (fits : Char → Bool) (s : List Char) : List Char := s.dropWhile fits

/-- A text without the given characters at its end. -/
def stripEnd (fits : Char → Bool) (s : List Char) : List Char := (s.reverse.dropWhile fits).reverse

/-- Whether a character has a case. -/
def hasCase (c : Char) : Bool := lowerChar c ≠ [c] || upperChar c ≠ [c]

/-- Every run of cased characters begun with a capital; `inWord` tells whether one has begun. -/
def titleFrom (inWord : Bool) : List Char → List Char
  | [] => []
  | c :: rest =>
      (if inWord then lowerChar c else titleChar c) ++ titleFrom (hasCase c) rest

/-- A text with capitals and small letters exchanged. -/
def swapCase (s : List Char) : List Char :=
  s.flatMap fun c => if lowerChar c ≠ [c] then lowerChar c else upperChar c

end EntryTemplates.Text
