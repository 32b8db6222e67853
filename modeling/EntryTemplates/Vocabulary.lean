/-
**Closed vocabularies of names.**

A vocabulary is a finite list of members, each with a name.  A text means a member if it is the
member's name in any case, with any white space around it.

Main definitions:

* `EntryTemplates.Vocabulary` — the members, their names, and what the vocabulary is called;
* `EntryTemplates.Vocabulary.exact` — the member with exactly this name;
* `EntryTemplates.Vocabulary.read` — the member that a text means.
-/

import EntryTemplates.Text.Blank
import EntryTemplates.Text.Case
import EntryTemplates.Text.Quoted

set_option relaxedAutoImplicit false
set_option autoImplicit false

namespace EntryTemplates

/-- A closed vocabulary of names. -/
class Vocabulary (α : Type) where
  /-- The members in their fixed order. -/
  all : List α
  /-- The name of a member. -/
  name : α → String
  /-- What reports call the vocabulary. -/
  title : String

/-- A text that is no name of a vocabulary. -/
structure UnknownName where
  /-- What reports call the vocabulary. -/
  vocabulary : String
  /-- The text, as it was compared. -/
  value : String
  deriving DecidableEq, Repr

/-- The report on an unknown name. -/
def UnknownName.message (u : UnknownName) : String :=
  Text.quotedString u.value ++ " is not a valid " ++ u.vocabulary

/-- A text in lower case and without its outer white space, as names are compared. -/
def normalized (s : String) : String := String.ofList (Text.lower (Text.trim s.toList))

namespace Vocabulary

variable {α : Type} [Vocabulary α]

/-- The member with exactly this name. -/
def find? (s : String) : Option α := (all : List α).find? fun m => name m == s

/-- The member with exactly this name, or a report that there is none. -/
def exact (s : String) : Except UnknownName α :=
  match find? s with
  | some m => .ok m
  | none => .error ⟨title α, s⟩

/-- **The member that a text means.** -/
def read (s : String) : Except UnknownName α := exact (normalized s)

/-- A member as a constant of its vocabulary: the vocabulary's title and the name in capitals. -/
def constantText (m : α) : String :=
  title α ++ "." ++ String.ofList (Text.upper (name m).toList)

end Vocabulary

end EntryTemplates
