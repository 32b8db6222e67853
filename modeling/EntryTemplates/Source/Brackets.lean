/-
**Whether brackets pair up.**

Round, square and curly brackets outside comments and literals must nest.  The first closing
bracket that does not fit the innermost open one is reported with its line; if there is none, the
innermost bracket left open is.

Main definitions:

* `EntryTemplates.Source.Imbalance` — the two ways in which brackets fail to pair up;
* `EntryTemplates.Source.pairUp` — the open brackets after a text, innermost first;
* `EntryTemplates.Source.imbalance?` — the first problem of a text.
-/

import EntryTemplates.Source.Strip

set_option relaxedAutoImplicit false
set_option autoImplicit false

namespace EntryTemplates.Source

open EntryTemplates.Text

/-- How brackets fail to pair up. -/
inductive Imbalance where
  /-- A closing bracket that does not fit, and its line counted from one. -/
  | unexpected (bracket : Char) (line : Nat)
  /-- The innermost bracket left open. -/
  | unclosed (bracket : Char)
  deriving DecidableEq, Repr

/-- The report on an imbalance. -/
def Imbalance.message : Imbalance → String
  | .unexpected bracket line => s!"unexpected '{bracket}' on line {line}"
  | .unclosed bracket => s!"unclosed '{bracket}'"

/-- The opening brackets. -/
def isOpening (c : Char) : Bool := c = '(' || c = '[' || c = '\x7b'

/-- The opening bracket that a closing one belongs to. -/
def opening? (c : Char) : Option Char :=
  if c = ')' then some '(' else if c = ']' then some '[' else if c = '\x7d' then some '\x7b' else none

/-- The open brackets after one more character of line `line`. -/
def pairChar (line : Nat) (stack : List Char) (c : Char) : Except Imbalance (List Char) :=
  if isOpening c then .ok (c :: stack)
  else
    match opening? c with
    | none => .ok stack
    | some partner =>
        match stack with
        | top :: below => if top = partner then .ok below else .error (.unexpected c line)
        | [] => .error (.unexpected c line)

/-- The open brackets after a line, innermost first. -/
def pairLine (line : Nat) : List Char → List Char → Except Imbalance (List Char)
  | stack, [] => .ok stack
  | stack, c :: rest =>
      match pairChar line stack c with
      | .ok stack' => pairLine line stack' rest
      | .error problem => .error problem

/-- The open brackets after some lines, the first of which has the number `line`. -/
def pairUp : Nat → List Char → List (List Char) → Except Imbalance (List Char)
  | _, stack, [] => .ok stack
  | line, stack, current :: lines =>
      match pairLine line stack current with
      | .ok stack' => pairUp (line + 1) stack' lines
      | .error problem => .error problem

/-- **The first problem with the brackets of a text.** -/
def imbalance? (content : List Char) : Option Imbalance :=
  match pairUp 1 [] (splitLines (strip content)) with
  | .error problem => some problem
  | .ok [] => none
  | .ok (top :: _) => some (.unclosed top)

end EntryTemplates.Source
