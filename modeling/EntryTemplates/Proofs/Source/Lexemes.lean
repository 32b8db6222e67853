/-
**The comments and literals of a text.**

Reading a text from left to right cuts it into comments, literals and plain characters between them.
So every place in it stands inside one comment or literal, or in none.

Main definitions:

* `EntryTemplates.Source.lexemes` — the comments and literals of a text, each with what follows it;
* `EntryTemplates.Source.IsComment` — those that are comments;
* `EntryTemplates.Source.StandsIn` — a place inside of a comment or literal.

Main results:

* `EntryTemplates.Source.isComplete_of_mem_lexemes` — **what is read is complete, and stands in the
  text**;
-/

import EntryTemplates.Proofs.Source.Stripping

set_option relaxedAutoImplicit false
set_option autoImplicit false

namespace EntryTemplates.Source

open EntryTemplates.Text

/-- **The comments and literals of a text** in their order, each with what follows it. -/
def lexemes : List Char → List (List Char × List Char)
  | [] => []
  | c :: rest =>
      match _h : lexeme? (c :: rest) with
      | some (lexeme, after) => (lexeme, after) :: lexemes after
      | none => lexemes rest
termination_by s => s.length
decreasing_by
  · exact lexeme?_length ‹_›
  · simp

theorem lexemes_of_lexeme {s lexeme after : List Char} (h : lexeme? s = some (lexeme, after)) :
    lexemes s = (lexeme, after) :: lexemes after := by
  cases s with
  | nil => simp [lexeme?] at h
  | cons c rest =>
      rw [lexemes]
      split
      · rename_i l a heq
        rw [h] at heq
        obtain ⟨rfl, rfl⟩ := Prod.mk.inj (Option.some.inj heq)
        rfl
      · rename_i heq
        simp [h] at heq

theorem lexemes_of_plain {c : Char} {rest : List Char} (h : lexeme? (c :: rest) = none) :
    lexemes (c :: rest) = lexemes rest := by
  rw [lexemes]
  split
  · rename_i heq
    simp [h] at heq
  · rfl

/-- A comment begins with two slashes, or with a slash and a star. -/
def IsComment (lexeme : List Char) : Prop := ['/', '/'] <+: lexeme ∨ ['/', '*'] <+: lexeme

instance (lexeme : List Char) : Decidable (IsComment lexeme) :=
  inferInstanceAs (Decidable (_ ∨ _))

/-- The place in a text behind which `after` stands is inside of a comment or literal, of which
`front` stands before the place and `back` behind it. -/
structure StandsIn (content front back after : List Char) : Prop where
  begun : front ≠ []
  notEnded : back ≠ []
  read : ∃ rest, (front ++ back, rest) ∈ lexemes content ∧ after = back ++ rest

/-- **What is read is complete, and stands in the text.** -/
theorem isComplete_of_mem_lexemes {s lexeme after : List Char} (h : (lexeme, after) ∈ lexemes s) :
    IsComplete lexeme ∧ CanFollow lexeme after ∧ ∃ before, s = before ++ (lexeme ++ after) := by
  fun_induction lexemes s with
  | case1 => exact absurd h List.not_mem_nil
  | case2 c rest first more hread ih =>
      obtain ⟨heq, hcomplete, hfollow⟩ := lexeme?_eq_some.1 hread
      rcases List.mem_cons.1 h with hfirst | hlater
      · obtain ⟨rfl, rfl⟩ := Prod.mk.inj hfirst
        exact ⟨hcomplete, hfollow, [], heq⟩
      · obtain ⟨hcomplete', hfollow', before, rfl⟩ := ih hlater
        exact ⟨hcomplete', hfollow', first ++ before, by rw [heq, List.append_assoc]⟩
  | case3 c rest hread ih =>
      obtain ⟨hcomplete, hfollow, before, rfl⟩ := ih h
      exact ⟨hcomplete, hfollow, c :: before, rfl⟩

/-- The first character of a comment or literal. -/
theorem IsComplete.exists_cons {lexeme : List Char} (h : IsComplete lexeme) :
    ∃ c rest, lexeme = c :: rest ∧ c ∈ ['/', '"', '\''] := by
  cases h with
  | lineComment => exact ⟨'/', _, rfl, by decide⟩
  | blockComment => exact ⟨'/', _, rfl, by decide⟩
  | string => exact ⟨'"', _, rfl, by decide⟩
  | character => exact ⟨'\'', _, rfl, by decide⟩

theorem lexeme?_of_not_opener {c : Char} (hc : c ∉ ['/', '"', '\'']) (rest : List Char) :
    lexeme? (c :: rest) = none := by
  cases h : lexeme? (c :: rest) with
  | none => rfl
  | some split =>
      obtain ⟨heq, hcomplete, -⟩ := lexeme?_eq_some.1 h
      obtain ⟨d, more, hd, hmem⟩ := hcomplete.exists_cons
      rw [hd] at heq
      obtain ⟨rfl, -⟩ := List.cons.inj heq
      exact absurd hmem hc

end EntryTemplates.Source
