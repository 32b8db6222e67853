/-
**What a catalogue holds after a template was put into it.**

Main results:

* `EntryTemplates.Catalogue.find?_put` — the template under its key is replaced, and no other;
* `EntryTemplates.Catalogue.map_key_put` — **the order of the keys stays**;
* `EntryTemplates.Catalogue.get_eq_ok` — what it takes to find a template by any names.
-/

import EntryTemplates.Catalogue
import Mathlib.Data.List.Nodup
import Mathlib.Tactic.Common

set_option relaxedAutoImplicit false
set_option autoImplicit false

namespace EntryTemplates.Catalogue

/-- The template under its key is replaced, and no other. -/
theorem find?_put (t : Template) (templates : List Template) (k : Key) :
    find? ⟨put t templates⟩ k = if t.key = k then some t else find? ⟨templates⟩ k := by
  simp only [find?]
  induction templates with
  | nil =>
      rw [put, List.find?_cons]
      by_cases h : t.key = k <;> simp [h]
  | cons u rest ih =>
      rw [put]
      split
      · rename_i hsame
        rw [List.find?_cons, List.find?_cons, hsame]
        by_cases h : t.key = k <;> simp [h]
      · rename_i hother
        rw [List.find?_cons, List.find?_cons, ih]
        by_cases h : u.key = k
        · have hne : t.key ≠ k := fun ht => hother (h.trans ht.symm)
          simp [h, hne]
        · simp [h]

/-- A template under a known key keeps the keys and their order. -/
theorem map_key_put {t : Template} {templates : List Template}
    (h : t.key ∈ templates.map Template.key) :
    (put t templates).map Template.key = templates.map Template.key := by
  induction templates with
  | nil => simp at h
  | cons u rest ih =>
      rw [put]
      split
      · rename_i hsame
        rw [List.map_cons, List.map_cons, hsame]
      · rename_i hother
        have hrest : t.key ∈ rest.map Template.key := by
          rcases List.mem_cons.1 h with h | h
          · exact absurd h.symm hother
          · exact h
        rw [List.map_cons, List.map_cons, ih hrest]

/-- A template under a new key is put behind the others. -/
theorem put_of_not_mem {t : Template} {templates : List Template}
    (h : t.key ∉ templates.map Template.key) : put t templates = templates ++ [t] := by
  induction templates with
  | nil => rfl
  | cons u rest ih =>
      rw [List.map_cons, List.mem_cons, not_or] at h
      rw [put, if_neg fun hu => h.1 hu.symm, ih h.2]
      rfl

theorem find?_eq_none_iff {c : Catalogue} {k : Key} :
    c.find? k = none ↔ k ∉ c.templates.map Template.key := by
  simp [find?, List.find?_eq_none]

theorem isSome_find?_iff {c : Catalogue} {k : Key} :
    (c.find? k).isSome = true ↔ k ∈ c.templates.map Template.key := by
  rw [Option.isSome_iff_ne_none, ne_eq, find?_eq_none_iff, not_not]

/-- What is found under a key is filed under it. -/
theorem key_of_find? {c : Catalogue} {k : Key} {t : Template} (h : c.find? k = some t) :
    t.key = k := by
  simpa using List.find?_some h

/-- Every template of a catalogue with different keys is found under its own. -/
theorem find?_of_mem {c : Catalogue} (h : (c.templates.map Template.key).Nodup) {t : Template}
    (ht : t ∈ c.templates) : c.find? t.key = some t := by
  obtain ⟨u, hu⟩ := Option.isSome_iff_exists.1 (isSome_find?_iff.2 (List.mem_map_of_mem ht))
  have hmem : u ∈ c.templates := List.mem_of_find?_eq_some hu
  rw [hu, List.inj_on_of_nodup_map h hmem ht (key_of_find? hu)]

/-- Without a framework and a style all templates are listed. -/
theorem list_missing (c : Catalogue) : c.list .missing .missing = .ok c.templates := by
  simp [list, wantedFramework, wantedStyle, Argument.missing, Argument.isNull, suits, bind,
    Except.bind, pure, Except.pure]

theorem resolve_eq_ok {framework style : Argument} {k : Key} :
    resolve framework style = .ok k ↔
      framework.parse = .ok k.framework ∧ style.parse = .ok k.style := by
  obtain ⟨f, s⟩ := k
  rw [resolve]
  cases (framework.parse : Except NoMember Framework) <;>
    cases (style.parse : Except NoMember Style) <;> simp

/-- **What it takes to find a template by any names.** -/
theorem get_eq_ok {c : Catalogue} {framework style : Argument} {t : Template} :
    c.get framework style = .ok t ↔
      ∃ k, (framework.parse = .ok k.framework ∧ style.parse = .ok k.style) ∧
        c.find? k = some t := by
  rw [get]
  cases hresolve : resolve framework style with
  | error r =>
      refine iff_of_false (by simp [bind, Except.bind]) ?_
      rintro ⟨k, hk, -⟩
      rw [resolve_eq_ok.2 hk] at hresolve
      exact absurd hresolve (by simp)
  | ok k =>
      have hk := resolve_eq_ok.1 hresolve
      have hunique : ∀ k', (framework.parse = .ok k'.framework ∧ style.parse = .ok k'.style) →
          k' = k := fun k' hk' => by
        rw [resolve_eq_ok.2 hk'] at hresolve
        exact Except.ok.inj hresolve
      simp only [bind, Except.bind]
      constructor
      · intro h
        refine ⟨k, hk, ?_⟩
        cases hfind : c.find? k <;> simp_all
      · rintro ⟨k', hk', hfind⟩
        rw [hunique k' hk'] at hfind
        rw [hfind]

end EntryTemplates.Catalogue
