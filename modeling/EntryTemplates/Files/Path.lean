/-
**Paths.**

A path is a root, which is empty for a relative path, and a list of parts.  Empty parts and single
dots vanish when a text is read as a path; a part of two dots stays.

Main definitions:

* `EntryTemplates.Files.Path` — roots and parts;
* `EntryTemplates.Files.Path.ofString`, `EntryTemplates.Files.Path.text` — reading and writing;
* `EntryTemplates.Files.Path.join`, `parent`, `name`, `suffix` — the usual operations.
-/

import EntryTemplates.Text.Search

set_option relaxedAutoImplicit false
set_option autoImplicit false

namespace EntryTemplates.Files

/-- A path: its root (empty, one slash or two) and its parts. -/
structure Path where
  root : String
  parts : List String
  deriving DecidableEq, Repr, Inhabited

namespace Path

/-- The parts that a text names: what stands between its slashes, without empty parts and single
dots. -/
def partsOf (s : List Char) : List String :=
  ((Text.splitAtChar '/' s).map String.ofList).filter fun part => part ≠ "" ∧ part ≠ "."

/-- The root of a text: exactly two leading slashes are a root of their own. -/
def rootOf (s : List Char) : String :=
  match s with
  | '/' :: '/' :: '/' :: _ => "/"
  | '/' :: '/' :: _ => "//"
  | '/' :: _ => "/"
  | _ => ""

/-- A text read as a path. -/
def ofString (s : String) : Path := ⟨rootOf s.toList, partsOf s.toList⟩

/-- The text of a path; the path without parts is a single dot. -/
def text (p : Path) : String :=
  if p.root = "" ∧ p.parts = [] then "." else p.root ++ "/".intercalate p.parts

/-- Whether a path starts at a root. -/
def isAbsolute (p : Path) : Bool := p.root ≠ ""

/-- One path after another; a path with a root stands for itself. -/
def join (p q : Path) : Path := if q.isAbsolute then q else ⟨p.root, p.parts ++ q.parts⟩

/-- A path followed by what a text names. -/
def child (p : Path) (s : String) : Path := p.join (ofString s)

/-- The path without its last part. -/
def parent (p : Path) : Path := ⟨p.root, p.parts.dropLast⟩

/-- The last part. -/
def name (p : Path) : String := p.parts.getLast?.getD ""

/-- The ending of a name from its last dot on, if the dot neither begins nor ends the name. -/
def suffixOf (name : List Char) : List Char :=
  match name.reverse.span (· ≠ '.') with
  | ([], _) => []
  | (_, []) => []
  | (_, [_]) => []
  | (ending, dot :: _) => (ending ++ [dot]).reverse

/-- The ending of a path's name. -/
def suffix (p : Path) : String := String.ofList (suffixOf p.name.toList)

end Path

end EntryTemplates.Files
