/-
**Templates that only print names.**

An outline is text with gaps, each of which has a name.  Written as a template, a gap is a tag that
prints the name; filled in, it is the text of a value.  The text between the gaps must not hold the
beginning of a tag, and gets line breaks of one kind.

Main definitions:

* `EntryTemplates.Render.IsLiteral` — texts in which no tag begins;
* `EntryTemplates.Render.IsFreeName` — names that mean nothing by themselves;
* `EntryTemplates.Render.Outline` — text with gaps;
* `EntryTemplates.Render.Outline.source`, `EntryTemplates.Render.Outline.filled` — an outline as a
  template, and with its gaps filled in.

Main results:

* `EntryTemplates.Render.IsLiteral.unifyBreaks` — no tag begins in a text when its line breaks are
  made line feeds;
* `EntryTemplates.Render.unifyBreaks_gap` — the gaps stay what they are meanwhile.
-/

import EntryTemplates.Proofs.Render.LineBreaks

set_option relaxedAutoImplicit false
set_option autoImplicit false

namespace EntryTemplates.Render

open Text

/-! ### Text and names -/

/-- A text in which no tag begins. -/
def IsLiteral (s : List Char) : Prop :=
  ∀ mark ∈ ['\x7b', '%', '#'], occursIn ['\x7b', mark] s = false

instance (s : List Char) : Decidable (IsLiteral s) :=
  List.decidableBAll (fun mark => occursIn ['\x7b', mark] s = false) ['\x7b', '%', '#']

/-- No tag begins at the first character or behind it. -/
theorem isLiteral_cons {c : Char} {s : List Char} :
    IsLiteral (c :: s) ↔
      (c = '\x7b' → ∀ d ∈ s.head?, d ∉ ['\x7b', '%', '#']) ∧ IsLiteral s := by
  simp only [IsLiteral, occursIn, Bool.or_eq_false_iff]
  constructor
  · intro h
    refine ⟨?_, fun mark hmark => (h mark hmark).2⟩
    rintro rfl d hd hmark
    obtain ⟨rest, rfl⟩ := List.head?_eq_some_iff.1 hd
    exact absurd (h d hmark).1 (by simp)
  · rintro ⟨hfirst, hrest⟩ mark hmark
    refine ⟨?_, hrest mark hmark⟩
    rw [Bool.eq_false_iff, Ne, List.isPrefixOf_iff_prefix]
    rintro ⟨rest, heq⟩
    obtain ⟨rfl, rfl⟩ := List.cons.inj heq
    exact hfirst rfl mark rfl hmark

/-- **A text in which no tag begins stays one** when its line breaks are made line feeds. -/
theorem IsLiteral.unifyBreaks {s : List Char} (h : IsLiteral s) :
    IsLiteral (Text.unifyBreaks s) := by
  fun_induction Text.unifyBreaks s with
  | case1 => exact h
  | case2 rest ih =>
      have hrest := (isLiteral_cons.1 (isLiteral_cons.1 h).2).2
      exact isLiteral_cons.2 ⟨fun heq => absurd heq (by decide), ih hrest⟩
  | case3 rest hrest ih =>
      exact isLiteral_cons.2 ⟨fun heq => absurd heq (by decide), ih (isLiteral_cons.1 h).2⟩
  | case4 c rest hpair hreturn ih =>
      obtain ⟨hfirst, hrest⟩ := isLiteral_cons.1 h
      refine isLiteral_cons.2 ⟨fun hc d hd => ?_, ih hrest⟩
      rw [head?_unifyBreaks] at hd
      obtain ⟨e, he, rfl⟩ := Option.map_eq_some_iff.1 hd
      split
      · decide
      · exact hfirst hc e he

/-- Letters, digits and the underscore, a letter or the underscore first; none of the words that
stand for something in every template. -/
structure IsFreeName (name : String) : Prop where
  /-- The first character is a letter or the underscore. -/
  start : ∀ c ∈ name.toList.head?, c.isAlpha = true ∨ c = '_'
  ne_nil : name.toList ≠ []
  chars : ∀ c ∈ name.toList, c.isAlphanum = true ∨ c = '_'
  /-- It is neither a constant, nor a negation, nor the template itself. -/
  noWord : name ∉ ["true", "True", "false", "False", "none", "None", "not", "self"]
  noBuiltin : builtin? name = none

/-! ### Outlines -/

/-- Text with gaps that have names. -/
inductive Outline where
  /-- Text up to the end. -/
  | text (s : List Char)
  /-- Text, a gap behind it, and what follows. -/
  | gap (s : List Char) (name : String) (rest : Outline)

namespace Outline

/-- **The outline as a template**: each gap is a tag that prints its name. -/
def source : Outline → List Char
  | text s => s
  | gap s name rest =>
      s ++ '\x7b' :: '\x7b' :: ' ' :: (name.toList ++ ' ' :: '\x7d' :: '\x7d' :: rest.source)

/-- The names of the gaps, in their order. -/
def names : Outline → List String
  | text _ => []
  | gap _ name rest => name :: rest.names

/-- **The outline with its gaps filled in**; line breaks between the gaps are made `lineBreak`. -/
def filled (lineBreak : List Char) (value : String → List Char) : Outline → List Char
  | text s => setBreaks lineBreak s
  | gap s name rest => setBreaks lineBreak s ++ value name ++ rest.filled lineBreak value

/-- No tag begins in the text between the gaps or across its end, and the names are free. -/
def IsPlain : Outline → Prop
  | text s => IsLiteral s
  | gap s name rest =>
      IsLiteral s ∧ s.getLast? ≠ some '\x7b' ∧ IsFreeName name ∧ rest.IsPlain

end Outline

theorem IsFreeName.not_mem {name : String} (h : IsFreeName name) {c : Char}
    (hc : c.isAlphanum = false) (hne : c ≠ '_') : c ∉ name.toList := by
  intro hmem
  obtain halnum | rfl := h.chars c hmem
  · rw [hc] at halnum
    exact Bool.noConfusion halnum
  · exact hne rfl

/-- **Gaps stay what they are** when line breaks are made line feeds. -/
theorem unifyBreaks_gap {s : List Char} {name : String} (hname : IsFreeName name)
    (rest : List Char) :
    unifyBreaks (s ++ '\x7b' :: '\x7b' :: ' ' ::
        (name.toList ++ ' ' :: '\x7d' :: '\x7d' :: rest)) =
      unifyBreaks s ++ '\x7b' :: '\x7b' :: ' ' ::
        (name.toList ++ ' ' :: '\x7d' :: '\x7d' :: unifyBreaks rest) := by
  have hreturn : '\r' ∉ name.toList := hname.not_mem (by decide) (by decide)
  have hafter (after : List Char) :
      unifyBreaks (' ' :: '\x7d' :: '\x7d' :: after) =
        ' ' :: '\x7d' :: '\x7d' :: unifyBreaks after := rfl
  have hbefore (after : List Char) :
      unifyBreaks ('\x7b' :: '\x7b' :: ' ' :: after) =
        '\x7b' :: '\x7b' :: ' ' :: unifyBreaks after := rfl
  rw [unifyBreaks_append (by simp), hbefore, unifyBreaks_append (by simp), hafter,
    unifyBreaks_of_not_mem hreturn]

end EntryTemplates.Render
