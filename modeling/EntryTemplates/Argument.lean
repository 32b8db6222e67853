/-
**Arguments that name a member of a vocabulary.**

A framework, a style, a language or a kind of output is asked for by a member of its vocabulary or
by any other value; the latter is read as text.  A member of another vocabulary is read as its
constant, which never is a name.

Main definitions:

* `EntryTemplates.Argument` — a member, or a plain value;
* `EntryTemplates.Argument.asText`, `EntryTemplates.Argument.label` — its text, and how reports on
  templates that are not found show it;
* `EntryTemplates.Argument.parse` — the member that an argument means;
* `EntryTemplates.NoMember` — why it may mean none.
-/

import EntryTemplates.Datum
import EntryTemplates.Framework
import EntryTemplates.ProjectMain

set_option relaxedAutoImplicit false
set_option autoImplicit false

namespace EntryTemplates

/-- A member of one of the vocabularies. -/
inductive Member where
  | framework (f : Framework)
  | style (s : Style)
  | language (l : Language)
  | output (k : OutputKind)
  deriving DecidableEq, Repr

/-- A vocabulary with its place among the others. -/
class Nameable (α : Type) extends Vocabulary α where
  /-- The member of this vocabulary, if it is one. -/
  ofMember? : Member → Option α

instance : Nameable Framework where
  ofMember?
    | .framework f => some f
    | _ => none

instance : Nameable Style where
  ofMember?
    | .style s => some s
    | _ => none

instance : Nameable Language where
  ofMember?
    | .language l => some l
    | _ => none

instance : Nameable OutputKind where
  ofMember?
    | .output k => some k
    | _ => none

/-- A member as a constant of its vocabulary. -/
def Member.constantText : Member → String
  | .framework f => Vocabulary.constantText f
  | .style s => Vocabulary.constantText s
  | .language l => Vocabulary.constantText l
  | .output k => Vocabulary.constantText k

/-- Why an argument means no member of a vocabulary. -/
inductive NoMember where
  /-- Its text is no name. -/
  | unknown (u : UnknownName)
  /-- It has no text. -/
  | tooLong (n : Number.TooLong)
  deriving DecidableEq, Repr

/-- An argument that names a member of a vocabulary. -/
inductive Argument where
  | plain (d : Datum)
  | member (m : Member)

namespace Argument

/-- The argument that was left out. -/
def missing : Argument := .plain .null

/-- A text as an argument. -/
def ofString (s : String) : Argument := .plain (.text s)

/-- The text of an argument, if it has one. -/
def asText : Argument → Except Number.TooLong String
  | .plain d => d.asText
  | .member m => .ok m.constantText

/-- How reports show an argument: frameworks and styles by their names. -/
def label : Argument → Except Number.TooLong String
  | .plain d => d.asText
  | .member (.framework f) => .ok f.name
  | .member (.style s) => .ok s.name
  | .member m => .ok m.constantText

/-- Whether an argument counts as given. -/
def isTrue : Argument → Bool
  | .plain d => d.isTrue
  | .member _ => true

/-- Whether an argument is null. -/
def isNull : Argument → Bool
  | .plain .null => true
  | _ => false

/-- The argument itself if it counts as given, otherwise the member. -/
def orMember (a : Argument) (m : Member) : Argument := if a.isTrue then a else .member m

/-- The member that a text means, if there is a text. -/
def readText {α : Type} [Nameable α] : Except Number.TooLong String → Except NoMember α
  | .ok s => (Vocabulary.read s).mapError .unknown
  | .error n => .error (.tooLong n)

/-- **The member that an argument means.** -/
def parse {α : Type} [Nameable α] (a : Argument) : Except NoMember α :=
  match a with
  | .member m =>
      match Nameable.ofMember? m with
      | some x => .ok x
      | none => readText (.ok m.constantText)
  | .plain d => readText d.asText

/-- What reports cannot show means no member. -/
theorem parse_ne_of_label {α : Type} [Nameable α] {a : Argument} {n : Number.TooLong}
    (h : a.label = .error n) (m : α) : a.parse ≠ .ok m := by
  rcases a with d | (_ | _ | _ | _)
  · replace h : d.asText = .error n := h
    rw [parse, h, readText]
    simp
  all_goals cases h

@[simp] theorem parse_framework (f : Framework) :
    (Argument.member (.framework f)).parse = .ok f := rfl

@[simp] theorem parse_style (s : Style) : (Argument.member (.style s)).parse = .ok s := rfl

end Argument

end EntryTemplates
