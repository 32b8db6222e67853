/-
**Breaking text into lines of limited width.**

Main definitions:

* `EntryTemplates.Text.chunks` — the pieces between which a line may be broken;
* `EntryTemplates.Text.wrapped` — the lines.
-/

import EntryTemplates.Text.Pieces
import EntryTemplates.Text.Word

set_option relaxedAutoImplicit false
set_option autoImplicit false

namespace EntryTemplates.Text

/-- The white space at which lines are broken. -/
def isBreak (c : Char) : Bool := c ∈ ['\t', '\n', '\x0b', '\x0c', '\r', ' ']

/-- Letters, as hyphens between them see them. -/
def isHyphenLetter (c : Char) : Bool := isWord c && c ≠ '_' && !c.isDigit

/-- A word taken apart behind hyphens between letters; `begun` stands before it (in reverse). -/
def splitHyphens (begun : List Char) : List Char → List (List Char)
  | [] => if begun.isEmpty then [] else [begun.reverse]
  | '-' :: rest =>
      let fitsBefore := match begun with
        | a :: b :: _ => isHyphenLetter b && (isHyphenLetter a || a = '-')
        | _ => false
      let fitsAfter := match rest with
        | a :: '-' :: b :: _ => isHyphenLetter a && isHyphenLetter b
        | a :: b :: _ => isHyphenLetter a && isHyphenLetter b
        | _ => false
      if fitsBefore && fitsAfter then ('-' :: begun).reverse :: splitHyphens [] rest
      else splitHyphens ('-' :: begun) rest
  | c :: rest => splitHyphens (c :: begun) rest

/-- The pieces between which a line may be broken: white space, words, and parts of words where
`atHyphens` allows it. -/
def chunks (atHyphens : Bool) (s : List Char) : List (List Char) :=
  (s.splitBy fun a b => isBreak a == isBreak b).flatMap fun run =>
    if atHyphens && !(run.all isBreak) then splitHyphens [] run else [run]

/-- How lines are broken. -/
structure Wrapping where
  width : Nat
  /-- Whether words that are too long for a line are broken. -/
  breaksWords : Bool
  atHyphens : Bool

/-- The place after the last hyphen among the first characters of a piece that is too long. -/
def lastHyphen? (limit : Nat) (chunk : List Char) : Option Nat :=
  match findBack? ['-'] (chunk.take limit) with
  | some n => if 0 < n && (chunk.take n).any (· ≠ '-') then some (n + 1) else none
  | none => none

/-- The pieces that fit in a line in which there is room for `room` more characters, and the
others. -/
def fitting : Nat → List (List Char) → List (List Char) × List (List Char)
  | _, [] => ([], [])
  | room, c :: cs =>
      if c.length ≤ room then
        let (line, rest) := fitting (room - c.length) cs
        (c :: line, rest)
      else ([], c :: cs)

/-- One line, and the pieces after it. -/
def takeLine (w : Wrapping) (all : List (List Char)) : List (List Char) × List (List Char) :=
  let (line, rest) := fitting w.width all
  let used := line.foldl (fun n c => n + c.length) 0
  match rest with
  | c :: cs =>
      if c.length ≤ w.width then (line, rest)
      else if w.breaksWords then
        let room := if w.width = 0 then 1 else w.width - used
        let cut := if w.atHyphens && room < c.length then (lastHyphen? room c).getD room else room
        (line ++ [c.take cut], c.drop cut :: cs)
      else if line.isEmpty then ([c], cs)
      else (line, rest)
  | [] => (line, [])

/-- The lines that pieces make; `fuel` exceeds the number of characters and of pieces. -/
def linesOf (w : Wrapping) : Nat → Bool → List (List Char) → List (List Char)
  | 0, _, _ => []
  | _ + 1, _, [] => []
  | fuel + 1, isFirst, c :: cs =>
      let all := if !isFirst && c.all isBlank then cs else c :: cs
      let (line, rest) := takeLine w all
      let line := match line.reverse with
        | last :: before => if last.all isBlank then before.reverse else line
        | [] => []
      if line.isEmpty then linesOf w fuel isFirst rest
      else line.flatten :: linesOf w fuel false rest

/-- **The lines of a text.** -/
def wrapped (w : Wrapping) (s : List Char) : List (List Char) :=
  let all := chunks w.atHyphens s
  linesOf w (s.length + all.length + 1) true all

end EntryTemplates.Text
