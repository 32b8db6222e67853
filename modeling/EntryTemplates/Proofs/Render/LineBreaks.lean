/-
**Line breaks of templates.**

A template is read with line feeds for all its line breaks; what it makes gets line breaks of one
kind.  So its text comes back as it was only if its line breaks are all of that kind.

Main definitions:

* `EntryTemplates.Render.setBreaks` — a text with line breaks of one kind;
* `EntryTemplates.Render.breaks` — the line breaks of a text.

Main results:

* `EntryTemplates.Render.withBreaks_unifyBreaks` — line breaks are first made line feeds, and then
  those of one kind;
* `EntryTemplates.Render.unifyBreaks_append` — line breaks are made line feeds piece by piece;
* `EntryTemplates.Render.setBreaks_lineBreakOf_eq_iff` — **which texts keep their line breaks**.
-/

import EntryTemplates.Render
import Mathlib.Tactic.Common

set_option relaxedAutoImplicit false
set_option autoImplicit false

namespace EntryTemplates.Render

open Text

/-! ### Line breaks of one kind -/

/-- A text with `lineBreak` in place of each of its line breaks, which are a carriage return with a
line feed behind it, and either of them alone. -/
def setBreaks (lineBreak : List Char) : List Char → List Char
  | [] => []
  | '\r' :: '\n' :: rest => lineBreak ++ setBreaks lineBreak rest
  | c :: rest => (if c = '\r' ∨ c = '\n' then lineBreak else [c]) ++ setBreaks lineBreak rest

theorem withBreaks_cons (lineBreak : List Char) (c : Char) (s : List Char) :
    withBreaks lineBreak (c :: s) =
      (if c = '\n' then lineBreak else [c]) ++ withBreaks lineBreak s := rfl

/-- **Line breaks are first made line feeds, and then those of one kind.** -/
theorem withBreaks_unifyBreaks (lineBreak s : List Char) :
    withBreaks lineBreak (unifyBreaks s) = setBreaks lineBreak s := by
  fun_induction unifyBreaks s with
  | case1 => rfl
  | case2 rest ih =>
      rw [withBreaks_cons, if_pos rfl, ih, setBreaks]
  | case3 rest hrest ih =>
      rw [withBreaks_cons, if_pos rfl, ih, setBreaks, if_pos (Or.inl rfl)]
      exact fun more _ heq => hrest more heq
  | case4 c rest hpair hreturn ih =>
      rw [withBreaks_cons, ih, setBreaks]
      · have hiff : (c = '\r' ∨ c = '\n') ↔ c = '\n' := or_iff_right hreturn
        simp only [hiff]
      · exact hpair

theorem unifyBreaks_other {c : Char} (h : c ≠ '\r') (rest : List Char) :
    unifyBreaks (c :: rest) = c :: unifyBreaks rest := by
  rw [unifyBreaks]
  · exact fun _ heq _ => h heq
  · exact h

/-- The first character is kept, if it is no carriage return. -/
theorem head?_unifyBreaks (s : List Char) :
    (unifyBreaks s).head? = s.head?.map fun c => if c = '\r' then '\n' else c := by
  fun_cases unifyBreaks s with
  | case1 => rfl
  | case2 => rfl
  | case3 => rfl
  | case4 c rest hpair hreturn => simp [if_neg hreturn]

theorem getLast?_cons_congr {α : Type} {c d : α} {s t : List α} (f : α → α)
    (hd : d = f c) (h : t.getLast? = s.getLast?.map f) :
    (d :: t).getLast? = (c :: s).getLast?.map f := by
  rw [List.getLast?_cons, List.getLast?_cons, h, hd]
  cases s.getLast? <;> rfl

/-- The last character is kept, if it is no carriage return. -/
theorem getLast?_unifyBreaks (s : List Char) :
    (unifyBreaks s).getLast? = s.getLast?.map fun c => if c = '\r' then '\n' else c := by
  fun_induction unifyBreaks s with
  | case1 => rfl
  | case2 rest ih =>
      rw [List.getLast?_cons_cons]
      exact getLast?_cons_congr _ rfl ih
  | case3 rest hrest ih => exact getLast?_cons_congr _ rfl ih
  | case4 c rest hpair hreturn ih => exact getLast?_cons_congr _ (if_neg hreturn).symm ih

/-- Line breaks are made line feeds piece by piece, unless a piece begins with a line feed. -/
theorem unifyBreaks_append {s t : List Char} (ht : t.head? ≠ some '\n') :
    unifyBreaks (s ++ t) = unifyBreaks s ++ unifyBreaks t := by
  fun_induction unifyBreaks s with
  | case1 => rfl
  | case2 rest ih =>
      rw [List.cons_append, List.cons_append, unifyBreaks, ih]
      rfl
  | case3 rest hrest ih =>
      rw [List.cons_append, unifyBreaks, ih]
      · rfl
      · intro more hmore
        cases rest with
        | nil =>
            rw [List.nil_append] at hmore
            exact ht (by rw [hmore]; rfl)
        | cons d rest =>
            obtain ⟨rfl, -⟩ := List.cons.inj hmore
            exact hrest rest rfl
  | case4 c rest hpair hreturn ih =>
      rw [List.cons_append, unifyBreaks_other hreturn, ih]
      rfl

theorem unifyBreaks_of_not_mem {s : List Char} (h : '\r' ∉ s) : unifyBreaks s = s := by
  induction s with
  | nil => rfl
  | cons c s ih =>
      rw [List.mem_cons, not_or] at h
      rw [unifyBreaks_other (Ne.symm h.1), ih h.2]

/-! ### Which line breaks there are -/

/-- The line breaks of a text, in their order. -/
def breaks : List Char → List (List Char)
  | [] => []
  | '\r' :: '\n' :: rest => ['\r', '\n'] :: breaks rest
  | c :: rest => if c = '\r' ∨ c = '\n' then [c] :: breaks rest else breaks rest

theorem isPrefixOf_pair {c : Char} {rest : List Char}
    (h : ∀ more, c = '\r' → rest = '\n' :: more → False) :
    ['\r', '\n'].isPrefixOf (c :: rest) = false := by
  rw [Bool.eq_false_iff, Ne, List.isPrefixOf_iff_prefix]
  rintro ⟨more, heq⟩
  obtain ⟨rfl, hrest⟩ := List.cons.inj heq
  exact h more rfl hrest.symm

/-- A carriage return with a line feed behind it is a line break. -/
theorem occursIn_iff_mem_breaks (s : List Char) :
    occursIn ['\r', '\n'] s = true ↔ ['\r', '\n'] ∈ breaks s := by
  fun_induction breaks s with
  | case1 => simp [occursIn]
  | case2 rest ih => simp [occursIn]
  | case3 c rest hpair hbreak ih =>
      rw [occursIn, isPrefixOf_pair hpair, Bool.false_or, ih, List.mem_cons]
      simp
  | case4 c rest hpair hbreak ih => rw [occursIn, isPrefixOf_pair hpair, Bool.false_or, ih]

/-- A text keeps its line breaks if they are of the kind that they are made. -/
theorem setBreaks_eq_iff {lineBreak : List Char}
    (h : lineBreak = ['\n'] ∨ lineBreak = ['\r', '\n']) (s : List Char) :
    setBreaks lineBreak s = s ↔ ∀ b ∈ breaks s, b = lineBreak := by
  fun_induction breaks s with
  | case1 => simp [setBreaks]
  | case2 rest ih =>
      rw [setBreaks, List.forall_mem_cons, ← ih]
      obtain rfl | rfl := h <;> simp
  | case3 c rest hpair hbreak ih =>
      rw [setBreaks, if_pos hbreak, List.forall_mem_cons, ← ih]
      · obtain rfl | rfl := h
        · obtain rfl | rfl := hbreak <;> simp
        · refine iff_of_false (fun heq => ?_) (by simp)
          obtain ⟨rfl, hrest⟩ := List.cons.inj heq
          exact hpair _ rfl hrest.symm
      · exact hpair
  | case4 c rest hpair hbreak ih =>
      rw [setBreaks, if_neg hbreak, ← ih]
      · simp
      · exact hpair

/-- The line breaks of what a template makes. -/
theorem toList_lineBreakOf (s : List Char) :
    (lineBreakOf s).toList = if ['\r', '\n'] ∈ breaks s then ['\r', '\n'] else ['\n'] := by
  rw [lineBreakOf]
  simp only [occursIn_iff_mem_breaks]
  split <;> rfl

/-- **A text keeps its line breaks** exactly if they are all line feeds, or all line feeds behind
carriage returns. -/
theorem setBreaks_lineBreakOf_eq_iff (s : List Char) :
    setBreaks (lineBreakOf s).toList s = s ↔
      (∀ b ∈ breaks s, b = ['\n']) ∨ ∀ b ∈ breaks s, b = ['\r', '\n'] := by
  rw [toList_lineBreakOf]
  split
  next hpair =>
    rw [setBreaks_eq_iff (Or.inr rfl)]
    exact (or_iff_right fun hfeeds => absurd (hfeeds _ hpair) (by decide)).symm
  next hpair =>
    rw [setBreaks_eq_iff (Or.inl rfl)]
    -- without such a break all breaks can be of that kind only if there is none
    exact ⟨Or.inl, fun hsame => hsame.elim id fun hpairs b hb =>
      absurd (hpairs b hb ▸ hb) hpair⟩

end EntryTemplates.Render
