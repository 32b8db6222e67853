/-
**Why a template cannot be rendered.**

Main definitions:

* `EntryTemplates.Render.Malformed` — what is wrong with a template that cannot be read;
* `EntryTemplates.Render.Mishap` — the kinds of mishaps while values are computed;
* `EntryTemplates.Render.Failure` — a malformed template, an undefined value, or a mishap.
-/

import EntryTemplates.Number.Written

set_option relaxedAutoImplicit false
set_option autoImplicit false

namespace EntryTemplates.Render

/-- What is wrong with a template that cannot be read. -/
inductive Malformed where
  /-- The grammar is broken. -/
  | broken (message : String)
  /-- A number of too many digits. -/
  | tooLong (n : Number.TooLong)
  deriving DecidableEq, Repr

/-- What a message says; one that shows a number of too many digits cannot be put together. -/
abbrev Wording := Except Number.TooLong String

/-- The kinds of mishaps while values are computed. -/
inductive Mishap where
  /-- An operation on values of unsuitable types. -/
  | wrongType
  /-- An operation on unsuitable values. -/
  | wrongValue
  | divisionByZero
  /-- An object that cannot be made. -/
  | unfit
  /-- A number out of range. -/
  | overflow
  | missingAttribute
  | missingKey
  | missingIndex
  /-- Several other templates, of which there are none. -/
  | noTemplates
  /-- Another template, of which there are none. -/
  | noTemplate
  /-- A filter, a test or a block that is not there. -/
  | notFound
  /-- An argument that a filter does not accept. -/
  | filterArgument
  /-- A condition that a filter relies on does not hold. -/
  | assertion
  /-- Calls nested too deeply. -/
  | tooDeep
  /-- What comes of it is left to chance, which is not followed. -/
  | chance
  deriving DecidableEq, Repr

/-- Why a template cannot be rendered. -/
inductive Failure where
  | malformed (m : Malformed)
  | undefined (message : Wording)
  | mishap (kind : Mishap) (message : String)

/-- A number of too many digits to be written. -/
def Failure.tooLong (n : Number.TooLong) : Failure := .mishap .wrongValue n.message

end EntryTemplates.Render
