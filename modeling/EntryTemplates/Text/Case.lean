/-
**Upper and lower case.**

Case maps follow Unicode: an image may have more than one character, and a capital sigma at the
end of a word becomes the final small sigma.

Main definitions:

* `EntryTemplates.Text.lower`, `EntryTemplates.Text.upper` — a whole text in one case;
* `EntryTemplates.Text.capitalize` — the first character in title case, the others in lower case.
-/

import EntryTemplates.Text.CaseTable
import EntryTemplates.Text.Ranges

set_option relaxedAutoImplicit false
set_option autoImplicit false

namespace EntryTemplates.Text

/-- The image of a code point under the rows of a table. -/
def shiftBy (rows : List (Nat × Nat × Nat × Int)) (n : Nat) : Option Nat :=
  match rows.find? fun (first, last, step, _) => first ≤ n && n ≤ last && (n - first) % step == 0 with
  | some (_, _, _, shift) => some (Int.toNat (n + shift))
  | none => none

/-- The image of a character beyond ASCII under a pair of tables. -/
def mapBeyond (rows : List (Nat × Nat × Nat × Int)) (lists : List (Nat × List Nat)) (c : Char) :
    List Char :=
  match lists.lookup c.toNat with
  | some codes => codes.map Char.ofNat
  | none =>
      match shiftBy rows c.toNat with
      | some code => [Char.ofNat code]
      | none => [c]

/-- The lower-case image of one character, without regard to its neighbours. -/
def lowerChar (c : Char) : List Char :=
  if c.toNat < 0x80 then [c.toLower] else mapBeyond lowerRows lowerLists c

/-- The upper-case image of one character. -/
def upperChar (c : Char) : List Char :=
  if c.toNat < 0x80 then [c.toUpper] else mapBeyond upperRows upperLists c

/-- The title-case image of one character. -/
def titleChar (c : Char) : List Char :=
  match titleLists.lookup c.toNat with
  | some codes => codes.map Char.ofNat
  | none => upperChar c

/-- Cased characters, as the rule for the final sigma sees them. -/
def isCased (c : Char) : Bool := inRanges casedRanges c.toNat

/-- Characters that the rule for the final sigma skips. -/
def isSkipped (c : Char) : Bool := inRanges ignorableRanges c.toNat

/-- Whether a sigma between `before` (in reverse) and `after` ends a word: a cased character
stands before it and none after it, the skipped ones left aside. -/
def endsWord (before after : List Char) : Bool :=
  (match before.dropWhile isSkipped with
    | c :: _ => isCased c
    | [] => false)
  && (match after.dropWhile isSkipped with
    | c :: _ => !isCased c
    | [] => true)

/-- Lower case of a text that stands after `before` (in reverse). -/
def lowerAfter (before : List Char) : List Char → List Char
  | [] => []
  | c :: rest =>
      (if c = 'Σ' then (if endsWord before rest then ['ς'] else ['σ']) else lowerChar c)
        ++ lowerAfter (c :: before) rest

/-- A text in lower case. -/
def lower (s : List Char) : List Char := lowerAfter [] s

/-- A text in upper case. -/
def upper (s : List Char) : List Char := s.flatMap upperChar

/-- The first character in title case, the others in lower case. -/
def capitalize : List Char → List Char
  | [] => []
  | c :: rest => titleChar c ++ lowerAfter [c] rest

@[simp] theorem lower_nil : lower [] = [] := rfl

@[simp] theorem upper_nil : upper [] = [] := rfl

end EntryTemplates.Text
