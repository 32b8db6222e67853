/-
**What is ahead of a cursor after it has moved.**

Reading depends on the text ahead and, for plain texts, on the column; how far a cursor has come
otherwise matters only to the keys that are still pending.  So every move is described by the text
that it leaves ahead.

Main results:

* `EntryTemplates.Document.Cursor.rest_forward`, `EntryTemplates.Document.Cursor.rest_span` — moving
  on drops what was passed;
* `EntryTemplates.Document.Cursor.lineBreak_of_lineFeed`,
  `EntryTemplates.Document.Cursor.lineBreak_of_kept` — one line break;
* `EntryTemplates.Document.Cursor.column_step_pos` — beyond a character that breaks no line the
  column is not the first one.
-/

import EntryTemplates.Document.Cursor
import EntryTemplates.Document.Write
import Mathlib.Data.List.TakeWhile
import Mathlib.Tactic.Common

set_option relaxedAutoImplicit false
set_option autoImplicit false

namespace EntryTemplates.Document

/-! ### Runs of characters -/

/-- A run of characters ends where the first other character stands. -/
theorem takeWhile_append_of_head {p : Char → Bool} {run after : List Char}
    (hrun : ∀ ch ∈ run, p ch = true) (hafter : ∀ ch ∈ after.head?, p ch = false) :
    (run ++ after).takeWhile p = run := by
  rw [List.takeWhile_append_of_pos hrun]
  cases after with
  | nil => simp
  | cons ch after => simp [hafter ch (by simp)]

theorem dropWhile_append_of_head {p : Char → Bool} {run after : List Char}
    (hrun : ∀ ch ∈ run, p ch = true) (hafter : ∀ ch ∈ after.head?, p ch = false) :
    (run ++ after).dropWhile p = after := by
  rw [List.dropWhile_append_of_pos hrun]
  cases after with
  | nil => rfl
  | cons ch after => simp [hafter ch (by simp)]

namespace Cursor

/-! ### Moving on -/

@[simp] theorem rest_forward (n : Nat) (c : Cursor) : (c.forward n).rest = c.rest.drop n := by
  induction n generalizing c with
  | zero => rfl
  | succ n ih => rw [forward_succ, ih, step_rest, List.drop_tail]

theorem rest_span (p : Char → Bool) (c : Cursor) : (c.span p).2.rest = c.rest.dropWhile p := by
  simp only [span, rest_forward]
  induction c.rest with
  | nil => rfl
  | cons ch after ih => by_cases h : p ch <;> simp [h, ih]

theorem peek_of_cons {c : Cursor} {ch : Char} {after : List Char} (h : c.rest = ch :: after) :
    c.peek = ch := by
  rw [peek, h, List.headD_cons]

theorem peek_of_nil {c : Cursor} (h : c.rest = []) : c.peek = '\x00' := by
  rw [peek, h, List.headD_nil]

theorem rest_step_of_cons {c : Cursor} {ch : Char} {after : List Char}
    (h : c.rest = ch :: after) : c.step.rest = after := by
  rw [step_rest, h, List.tail_cons]

/-- A cursor does not move over a run that is empty. -/
theorem span_of_head {p : Char → Bool} {c : Cursor} (h : ∀ ch ∈ c.rest.head?, p ch = false) :
    c.span p = ([], c) := by
  have : c.rest.takeWhile p = [] := by
    cases hc : c.rest with
    | nil => rfl
    | cons ch after => simp [h ch (by simp [hc])]
  simp [span, this]

/-! ### Lines and columns -/

theorem column_step_pos {c : Cursor} {ch : Char} {after : List Char} (h : c.rest = ch :: after)
    (hbreak : isBreak ch = false) (hmark : ch ≠ '\uFEFF') :
    c.step.column = c.column + 1 := by
  have hret : ch ≠ '\r' := by
    rintro rfl
    exact absurd hbreak (by decide)
  simp [step, h, hbreak, hmark, hret]

theorem line_step {c : Cursor} {ch : Char} {after : List Char} (h : c.rest = ch :: after)
    (hbreak : isBreak ch = false) (hmark : ch ≠ '\uFEFF') : c.step.line = c.line := by
  have hret : ch ≠ '\r' := by
    rintro rfl
    exact absurd hbreak (by decide)
  simp [step, h, hbreak, hmark, hret]

theorem index_step {c : Cursor} {ch : Char} {after : List Char} (h : c.rest = ch :: after) :
    c.step.index = c.index + 1 := by
  rw [step, h]
  dsimp only
  split
  · rfl
  · split <;> rfl

theorem column_step_lineFeed {c : Cursor} {after : List Char} (h : c.rest = '\n' :: after) :
    c.step.column = 0 := by
  simp [step, h, isBreak]

/-- A line feed is read as it stands. -/
theorem lineBreak_of_lineFeed {c : Cursor} {after : List Char} (h : c.rest = '\n' :: after) :
    c.lineBreak = (['\n'], c.step) := by
  simp [lineBreak, h]

/-- The line break that is read for one that is written. -/
def readBreak (ch : Char) : Char := if ch = '\u0085' then '\n' else ch

/-- Of the line breaks that a written text keeps, only the next-line character is lost. -/
theorem lineBreak_of_kept {c : Cursor} {ch : Char} {after : List Char} (h : c.rest = ch :: after)
    (hkept : isKeptBreak ch = true) : c.lineBreak = ([readBreak ch], c.step) := by
  simp only [isKeptBreak, Bool.or_eq_true, decide_eq_true_eq] at hkept
  rcases hkept with ((rfl | rfl) | rfl) | rfl <;> simp [lineBreak, h, readBreak]

end Cursor

/-! ### Classes of characters -/

theorem isBreak_of_isKeptBreak {ch : Char} (h : isKeptBreak ch = true) : isBreak ch = true := by
  simp only [isKeptBreak, Bool.or_eq_true, decide_eq_true_eq] at h
  rcases h with ((rfl | rfl) | rfl) | rfl <;> decide

/-- A character that need not be escaped is no tab, no carriage return, no null and no mark of the
byte order. -/
theorem ne_of_not_isSpecial {ch : Char} (h : isSpecial ch = false) :
    ch ≠ '\t' ∧ ch ≠ '\r' ∧ ch ≠ '\x00' ∧ ch ≠ '\uFEFF' := by
  refine ⟨?_, ?_, ?_, ?_⟩ <;> (rintro rfl; exact absurd h (by decide))

/-- Of the characters that need not be escaped, only the blank and the kept line breaks are white
space. -/
theorem isBlankOrEnd_of_not_isSpecial {ch : Char} (h : isSpecial ch = false) :
    isBlankOrEnd ch = (decide (ch = ' ') || isKeptBreak ch) := by
  obtain ⟨htab, hret, hnull, -⟩ := ne_of_not_isSpecial h
  simp [isBlankOrEnd, isSpaceOrEnd, isBreakOrEnd, isBreak, isKeptBreak, htab, hret, hnull]

end EntryTemplates.Document
