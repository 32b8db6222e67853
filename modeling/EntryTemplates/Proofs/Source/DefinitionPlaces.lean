/-
**Definitions of `main`, counted by their places.**

Definitions are looked for from left to right, and behind one that is found the search goes on at
its end.  Such a search could step over a definition that begins inside of another one.  It does
not, for none does: the definitions at two places of a text stand one behind the other.  So the
number that is found is that of all places at which a definition begins.

Main definitions:

* `EntryTemplates.Source.DefinitionAt` — a definition begins at a place of a text;
* `EntryTemplates.Source.definitionPlaces` — all places at which one begins.

Main results:

* `EntryTemplates.Source.DefinitionAt.add_length_le` — **two definitions never overlap**;
* `EntryTemplates.Source.countDefinitionsAfter_eq_sum` — each place counts once;
* `EntryTemplates.Source.mainCount_eq_card` — **definitions are counted by their places**.
-/

import EntryTemplates.Proofs.Source.Definitions
import Mathlib.Algebra.BigOperators.Intervals
import Mathlib.Data.Finset.Card

set_option relaxedAutoImplicit false
set_option autoImplicit false

namespace EntryTemplates.Source

open EntryTemplates.Text

variable {s text : List Char} {before : Option Char} {i j : Nat}

/-! ### Places -/

/-- A definition begins at the place behind the first `i` characters of a text. -/
structure DefinitionAt (s : List Char) (i : Nat) : Prop where
  /-- The character in front of it, if there is one, belongs to no word. -/
  wordStart : ∀ c ∈ (s.take i).getLast?, isWord c = false
  /-- The text reads as a definition there. -/
  reads : ∃ text, IsDefinition text ∧ text <+: s.drop i

theorem wordCanBegin_iff : wordCanBegin before = true ↔ ∀ c ∈ before, isWord c = false := by
  cases before with
  | none => simp [wordCanBegin]
  | some c => simp [wordCanBegin]

/-- What the search looks at: the character in front of a place, and what stands behind. -/
theorem definitionAt_iff : DefinitionAt s i ↔ Begins (s.take i).getLast? (s.drop i) := by
  rw [Begins, wordCanBegin_iff, isSome_definition?_iff]
  exact ⟨fun h => ⟨h.wordStart, h.reads⟩, fun h => ⟨h.1, h.2⟩⟩

instance (s : List Char) (i : Nat) : Decidable (DefinitionAt s i) :=
  decidable_of_iff _ definitionAt_iff.symm

/-- A definition begins inside of a text. -/
theorem DefinitionAt.lt_length (h : DefinitionAt s i) : i < s.length := by
  obtain ⟨text, htext, hprefix⟩ := h.reads
  obtain ⟨c, w, rfl, -, -⟩ := htext.exists_cons
  have hlength : (c :: w).length ≤ (s.drop i).length := hprefix.length_le
  rw [List.length_cons, List.length_drop] at hlength
  omega

/-- **All places of a text at which a definition begins.** -/
def definitionPlaces (s : List Char) : Finset Nat :=
  (Finset.range s.length).filter (DefinitionAt s)

theorem mem_definitionPlaces : i ∈ definitionPlaces s ↔ DefinitionAt s i := by
  rw [definitionPlaces, Finset.mem_filter, Finset.mem_range]
  exact ⟨fun h => h.2, fun h => ⟨h.lt_length, h⟩⟩

/-! ### Definitions do not overlap -/

/-- No definition begins where a word goes on, where none begins, or at the name of what is
defined. -/
theorem not_definitionAt_of_continues {front back : List Char} {a b : Char} (h : Continues a b) :
    ¬ DefinitionAt (front ++ a :: b :: back) (front.length + 1) := by
  have htake : (front ++ a :: b :: back).take (front.length + 1) = front ++ [a] := by
    rw [List.take_append]
    simp
  have hdrop : (front ++ a :: b :: back).drop (front.length + 1) = b :: back := by
    rw [List.drop_append]
    simp
  rw [definitionAt_iff, htake, hdrop, List.getLast?_concat]
  exact not_begins_of_continues h

/-- **Two definitions never overlap**: the one that begins first ends before the other one begins,
or where it does. -/
theorem DefinitionAt.add_length_le (hj : DefinitionAt s j) (hij : i < j) (htext : IsDefinition text)
    (hreads : text <+: s.drop i) : i + text.length ≤ j := by
  by_contra hlt
  -- the place `j` is one in the definition at `i`, behind its first character
  obtain ⟨k, rfl⟩ : ∃ k, j = i + (k + 1) := ⟨j - i - 1, by omega⟩
  have hk : k + 1 < text.length := by omega
  obtain ⟨front, a, b, back, rfl, hfront⟩ :
      ∃ front a b back, text = front ++ a :: b :: back ∧ front.length = k := by
    refine ⟨text.take k, text[k], text[k + 1], text.drop (k + 2), ?_, ?_⟩
    · rw [List.getElem_cons_drop, List.getElem_cons_drop, List.take_append_drop]
    · rw [List.length_take]
      omega
  have hnext : Continues a b := (List.isChain_cons_cons.1 htext.isChain.right_of_append).1
  obtain ⟨after, hafter⟩ := hreads
  have hs : s = (s.take i ++ front) ++ a :: b :: (back ++ after) := by
    calc s = s.take i ++ s.drop i := (List.take_append_drop i s).symm
      _ = s.take i ++ (front ++ a :: b :: back ++ after) := by rw [hafter]
      _ = (s.take i ++ front) ++ a :: b :: (back ++ after) := by simp
  have hplace : (s.take i ++ front).length + 1 = i + (k + 1) := by
    have hlength : i + (k + 1) < s.length := hj.lt_length
    rw [List.length_append, List.length_take, hfront]
    omega
  rw [hs, ← hplace] at hj
  exact not_definitionAt_of_continues hnext hj

/-! ### Counting -/

/-- **Each place counts once** at which a definition begins. -/
theorem countDefinitionsAfter_eq_sum (before : Option Char) (s : List Char) :
    countDefinitionsAfter before s = ∑ i ∈ Finset.range s.length,
      if Begins ((s.take i).getLast?.or before) (s.drop i) then 1 else 0 := by
  induction s generalizing before with
  | nil => rw [countDefinitionsAfter, List.length_nil, Finset.sum_range_zero]
  | cons c rest ih =>
      rw [countDefinitionsAfter_step, ih, List.length_cons, Finset.sum_range_succ', Nat.add_comm]
      congr 1
      refine Finset.sum_congr rfl fun i _ => ?_
      rw [List.take_succ_cons, List.drop_succ_cons, getLast?_cons_or]

theorem countDefinitions_eq_card (s : List Char) :
    countDefinitions s = (definitionPlaces s).card := by
  rw [countDefinitions, countDefinitionsAfter_eq_sum, definitionPlaces, Finset.card_filter]
  refine Finset.sum_congr rfl fun i _ => ?_
  rw [Option.or_none]
  simp only [definitionAt_iff]

/-- **Definitions of `main` are counted by their places**: by all places of what is left without
comments and literals at which one begins.  No two of them overlap, so the search passes none. -/
theorem mainCount_eq_card (content : List Char) :
    mainCount content = (definitionPlaces (strip content)).card ∧
    (∀ i, i ∈ definitionPlaces (strip content) ↔ DefinitionAt (strip content) i) ∧
    ∀ i ∈ definitionPlaces (strip content), ∀ j ∈ definitionPlaces (strip content), i < j →
      ∀ text, IsDefinition text → text <+: (strip content).drop i → i + text.length ≤ j := by
  refine ⟨countDefinitions_eq_card (strip content), fun i => mem_definitionPlaces, ?_⟩
  intro i _ j hj hij text htext hreads
  exact (mem_definitionPlaces.1 hj).add_length_le hij htext hreads

/-- A definition begins where the one before it ends, and none begins inside of a word. -/
example : definitionPlaces "int main(auto\u2003main\n(print main(".toList = {0, 9} := by
  decide +kernel

end EntryTemplates.Source
