/-
**Include directives.**

An include directive stands at the beginning of a line: blanks and tabs, a hash, blanks and tabs,
`include`, blanks and tabs, and the header between `<` or `"` and `>` or `"`.  Lines end at line
feeds only.

Main definitions:

* `EntryTemplates.Source.includesAt` — whether a text begins with the directive for a header;
* `EntryTemplates.Source.includes` — whether some line of a text does.
-/

import EntryTemplates.Text.Search

set_option relaxedAutoImplicit false
set_option autoImplicit false

namespace EntryTemplates.Source

open EntryTemplates.Text

/-- Blanks and tabs. -/
def isInlineBlank (c : Char) : Bool := c = ' ' || c = '\t'

/-- A text from its first character that is neither a blank nor a tab. -/
def skipInline (s : List Char) : List Char := s.dropWhile isInlineBlank

/-- Whether a text begins with the header in its delimiters. -/
def namesHeader (header : List Char) : List Char → Bool
  | c :: rest =>
      (c = '<' || c = '"') &&
        match dropPrefix? header rest with
        | some (d :: _) => d = '>' || d = '"'
        | _ => false
  | [] => false

/-- Whether a text begins with the include directive for the header. -/
def includesAt (header : List Char) (s : List Char) : Bool :=
  match skipInline s with
  | '#' :: rest =>
      match dropPrefix? "include".toList (skipInline rest) with
      | some rest' => namesHeader header (skipInline rest')
      | none => false
  | _ => false

/-- Whether `holds` is true of what follows some line feed. -/
def afterLineFeed (holds : List Char → Bool) : List Char → Bool
  | [] => false
  | c :: rest => (c = '\n' && holds rest) || afterLineFeed holds rest

/-- Whether some line of a text begins with the include directive for the header. -/
def includes (header : List Char) (content : List Char) : Bool :=
  includesAt header content || afterLineFeed (includesAt header) content

end EntryTemplates.Source
