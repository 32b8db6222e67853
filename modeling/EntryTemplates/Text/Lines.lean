/-
**The lines of a text.**

Several conventions live side by side.  `splitLines` ends a line at every line boundary of Unicode:
line feed, carriage return (a following line feed belongs to it), vertical tab, form feed, the
file, group and record separators, next line, line separator and paragraph separator.
`countLineFeeds` looks at line feeds only.

Main definitions:

* `EntryTemplates.Text.isLineEnd` — the line boundaries;
* `EntryTemplates.Text.splitLines` — the lines between them; a boundary at the very end opens no
  further line;
* `EntryTemplates.Text.unifyBreaks` — a text with every line break as one line feed;
* `EntryTemplates.Text.ofLines` — the text of some lines;
* `EntryTemplates.Text.countLineFeeds`, `EntryTemplates.Text.lineFeeds` — line feeds counted, and
  as many of them in a row.
-/

set_option relaxedAutoImplicit false
set_option autoImplicit false

namespace EntryTemplates.Text

/-- The characters that end a line. -/
def isLineEnd (c : Char) : Bool :=
  let n := c.toNat
  (0x0A ≤ n && n ≤ 0x0D) || (0x1C ≤ n && n ≤ 0x1E) || n == 0x85 || n == 0x2028 || n == 0x2029

/-- The lines of a text whose first line has already begun with `begun` (in reverse). -/
def splitLinesFrom (begun : List Char) : List Char → List (List Char)
  | [] => if begun.isEmpty then [] else [begun.reverse]
  | '\r' :: '\n' :: rest => begun.reverse :: splitLinesFrom [] rest
  | c :: rest =>
      if isLineEnd c then begun.reverse :: splitLinesFrom [] rest
      else splitLinesFrom (c :: begun) rest

/-- The lines of a text, without their boundaries. -/
def splitLines (s : List Char) : List (List Char) := splitLinesFrom [] s

@[simp] theorem splitLines_nil : splitLines [] = [] := rfl

/-- A text with every line break as one line feed. -/
def unifyBreaks : List Char → List Char
  | [] => []
  | '\r' :: '\n' :: rest => '\n' :: unifyBreaks rest
  | '\r' :: rest => '\n' :: unifyBreaks rest
  | c :: rest => c :: unifyBreaks rest

/-- The text of some lines, each of them ended by a line feed. -/
def ofLines (lines : List String) : String := String.join (lines.map fun line => line ++ "\n")

/-- The number of line feeds. -/
def countLineFeeds (s : List Char) : Nat := s.count '\n'

/-- As many line feeds as the text has, and nothing else. -/
def lineFeeds (s : List Char) : List Char := List.replicate (countLineFeeds s) '\n'

@[simp] theorem lineFeeds_nil : lineFeeds [] = [] := rfl

@[simp] theorem countLineFeeds_append (s t : List Char) :
    countLineFeeds (s ++ t) = countLineFeeds s + countLineFeeds t := by
  simp [countLineFeeds]

end EntryTemplates.Text
