/-
**Reading texts between quotes.**

A quoted text is read word by word, with white space and escapes between the words.  Here reading is
described as a judgment on the characters ahead, with one rule for each way in which the text can go
on, so that what was written can be read back piece by piece in the order in which it was written.

Main definitions:

* `EntryTemplates.Document.ReadsQuoted` — inside quotes, these characters mean that text.

Main results:

* `EntryTemplates.Document.ReadsQuoted.close`, `char`, `escape`, `spaces` — the rules;
* `EntryTemplates.Document.ReadsQuoted.readQuoted` — a whole scalar is read as the judgment says.
-/

import EntryTemplates.Proofs.Document.Moves
import EntryTemplates.Document.Lexeme

set_option relaxedAutoImplicit false
set_option autoImplicit false

namespace EntryTemplates.Document

open Cursor
open Text (Letter)

/-- The quote that ends a scalar. -/
def closingQuote (double : Bool) : Char := if double then '"' else '\''

/-- **Inside quotes, `input` is read as the text `s`**, and `rest` stands behind the closing
quote. -/
def ReadsQuoted (double : Bool) (input s rest : List Char) : Prop :=
  ∀ c : Cursor, c.rest = input → ∀ fuel, input.length < fuel →
    ∃ word between, quotedWord double fuel c = .ok (word, between) ∧
      between.rest.length ≤ input.length ∧
      ∀ fuel', between.rest.length < fuel' →
        ∃ more after, quotedRest double (closingQuote double) fuel' between = .ok (more, after) ∧
          word ++ more = s.map .char ∧ after.rest = rest

/-! ### Words -/

theorem span_cons {p : Char → Bool} {c : Cursor} {ch : Char} {after : List Char}
    (h : c.rest = ch :: after) (hp : p ch = true) :
    c.span p = (ch :: (c.step.span p).1, (c.step.span p).2) := by
  simp [span, h, hp, step_rest]

/-- A character of a word comes before what is read after it. -/
theorem quotedWord_cons {double : Bool} {fuel : Nat} {c : Cursor} {ch : Char} {after : List Char}
    (h : c.rest = ch :: after) (hch : isQuotedChar ch = true) {word : List Letter}
    {between : Cursor} (hword : quotedWord double fuel c.step = .ok (word, between))
    (hfuel : 0 < fuel) : quotedWord double fuel c = .ok (.char ch :: word, between) := by
  obtain ⟨fuel, rfl⟩ : ∃ k, fuel = k + 1 := ⟨fuel - 1, by omega⟩
  rw [quotedWord] at hword ⊢
  rw [span_cons h hch]
  generalize c.step.span isQuotedChar = taken at hword ⊢
  obtain ⟨chars, c'⟩ := taken
  dsimp only at hword ⊢
  -- the same branch is taken on both sides, and what is read before it stands in front
  split at hword
  · rename_i hpair
    rw [if_pos hpair]
    split at hword <;> simp_all
  · rename_i hpair
    rw [if_neg hpair]
    split at hword
    · rename_i hmark
      rw [if_pos hmark]
      split at hword <;> simp_all
    · rename_i hmark
      rw [if_neg hmark]
      split at hword
      · rename_i hescape
        rw [if_pos hescape]
        repeat' split at hword
        all_goals simp_all
      · rename_i hescape
        rw [if_neg hescape]
        simp_all

namespace ReadsQuoted

variable {double : Bool} {input s rest : List Char}

/-! ### Rules -/

/-- The closing quote ends the text. -/
theorem close (h : ∀ ch ∈ rest.head?, ch ≠ '\'') :
    ReadsQuoted double (closingQuote double :: rest) [] rest := by
  intro c hc fuel hfuel
  obtain ⟨fuel, rfl⟩ : ∃ k, fuel = k + 1 := ⟨fuel - 1, by simp at hfuel; omega⟩
  have hspan : c.span isQuotedChar = ([], c) := by
    refine span_of_head ?_
    cases double <;> simp [hc, closingQuote] <;> decide
  have hnext : c.peekAt 1 ≠ '\'' := by
    cases rest with
    | nil => simp [peekAt, hc]
    | cons ch after => simpa [peekAt, hc] using h ch (by simp)
  refine ⟨[], c, ?_, by simp [hc], ?_⟩
  · rw [quotedWord]
    simp only [hspan, peek_of_cons hc]
    cases double <;> simp [closingQuote, hnext]
  · intro fuel' hfuel'
    obtain ⟨fuel', rfl⟩ : ∃ k, fuel' = k + 1 := ⟨fuel' - 1, by omega⟩
    refine ⟨[], c.step, ?_, rfl, rest_step_of_cons hc⟩
    rw [quotedRest, peek_of_cons hc, if_pos rfl]

/-- A character that means itself. -/
theorem char {ch : Char} (hch : isQuotedChar ch = true) (h : ReadsQuoted double input s rest) :
    ReadsQuoted double (ch :: input) (ch :: s) rest := by
  intro c hc fuel hfuel
  rw [List.length_cons] at hfuel
  obtain ⟨word, between, hword, hle, hmore⟩ :=
    h c.step (rest_step_of_cons hc) fuel (by omega)
  refine ⟨.char ch :: word, between, quotedWord_cons hc hch hword (by omega), by simp; omega, ?_⟩
  intro fuel' hfuel'
  obtain ⟨more, after, hrest, hs, hafter⟩ := hmore fuel' hfuel'
  exact ⟨more, after, hrest, by rw [List.cons_append, hs, List.map_cons], hafter⟩

/-- What stands between two words and is no white space: `text` is read for it, and the word goes
on. -/
theorem inner {mark : Char} {written : List Char} (text : List Char)
    (h : ReadsQuoted double input s rest)
    (hlength : input.length ≤ written.length)
    (hstep : ∀ (c : Cursor) (fuel : Nat), c.rest = mark :: written → ∃ c' : Cursor,
      c'.rest = input ∧ ∀ word between, quotedWord double fuel c' = .ok (word, between) →
        quotedWord double (fuel + 1) c = .ok (text.map .char ++ word, between)) :
    ReadsQuoted double (mark :: written) (text ++ s) rest := by
  intro c hc fuel hfuel
  rw [List.length_cons] at hfuel
  obtain ⟨fuel, rfl⟩ : ∃ k, fuel = k + 1 := ⟨fuel - 1, by omega⟩
  obtain ⟨c', hc', hcont⟩ := hstep c fuel hc
  obtain ⟨word, between, hword, hle, hmore⟩ := h c' hc' fuel (by omega)
  refine ⟨text.map .char ++ word, between, hcont word between hword, by simp; omega, ?_⟩
  intro fuel' hfuel'
  obtain ⟨more, after, hrest, hs, hafter⟩ := hmore fuel' hfuel'
  exact ⟨more, after, hrest, by rw [List.append_assoc, hs, List.map_append], hafter⟩

/-- Two single quotes mean one of them. -/
theorem doubledQuote (h : ReadsQuoted false input s rest) :
    ReadsQuoted false ('\'' :: '\'' :: input) ('\'' :: s) rest := by
  refine inner ['\''] h (by simp) ?_
  intro c fuel hc
  refine ⟨c.forward 2, by rw [rest_forward, hc]; rfl, ?_⟩
  intro word between hword
  have hspan : c.span isQuotedChar = ([], c) :=
    span_of_head (by simp [hc, (by decide : isQuotedChar '\'' = false)])
  have hnext : c.peekAt 1 = '\'' := by simp [peekAt, hc]
  rw [quotedWord]
  simp only [hspan, peek_of_cons hc, hnext, hword]
  simp

/-- The quotes and the backslash that have no meaning of their own. -/
theorem mark {ch : Char}
    (hch : (double = true ∧ ch = '\'') ∨ (double = false ∧ (ch = '"' ∨ ch = '\\')))
    (h : ReadsQuoted double input s rest) : ReadsQuoted double (ch :: input) (ch :: s) rest := by
  refine inner [ch] h le_rfl ?_
  intro c fuel hc
  refine ⟨c.step, rest_step_of_cons hc, ?_⟩
  intro word between hword
  have hspan : c.span isQuotedChar = ([], c) := by
    refine span_of_head ?_
    rcases hch with ⟨-, rfl⟩ | ⟨-, rfl | rfl⟩ <;> simp [hc] <;> decide
  rw [quotedWord]
  simp only [hspan, peek_of_cons hc, hword]
  rcases hch with ⟨rfl, rfl⟩ | ⟨rfl, rfl | rfl⟩ <;> simp

/-- A backslash and what follows it. -/
theorem escape {written : List Char} (text : List Char) (hlength : input.length ≤ written.length)
    (hescape : ∀ c : Cursor, c.rest = written → ∃ c' : Cursor,
      readEscape c = .ok (text.map .char, c') ∧ c'.rest = input)
    (h : ReadsQuoted true input s rest) :
    ReadsQuoted true ('\\' :: written) (text ++ s) rest := by
  refine inner text h hlength ?_
  intro c fuel hc
  obtain ⟨c', hread, hc'⟩ := hescape c.step (rest_step_of_cons hc)
  refine ⟨c', hc', ?_⟩
  intro word between hword
  have hspan : c.span isQuotedChar = ([], c) :=
    span_of_head (by simp [hc, (by decide : isQuotedChar '\\' = false)])
  rw [quotedWord]
  simp only [hspan, peek_of_cons hc, hread, hword]
  simp

/-- White space between two words. -/
theorem spaces {ch : Char} {written text : List Char}
    (hch : ch = ' ' ∨ isKeptBreak ch = true) (hlength : input.length ≤ written.length)
    (hspaces : ∀ c : Cursor, c.rest = ch :: written → ∃ c' : Cursor,
      quotedSpaces c = .ok (text, c') ∧ c'.rest = input)
    (h : ReadsQuoted double input s rest) :
    ReadsQuoted double (ch :: written) (text ++ s) rest := by
  -- a blank or a line break ends the word before it, and belongs to no word
  have hends : isQuotedChar ch = false ∧ ch ≠ '\'' ∧ ch ≠ '"' ∧ ch ≠ '\\' := by
    simp only [isKeptBreak, Bool.or_eq_true, decide_eq_true_eq] at hch
    rcases hch with rfl | ((rfl | rfl) | rfl) | rfl <;> decide
  obtain ⟨hword, hsingle, hdouble, hback⟩ := hends
  intro c hc fuel hfuel
  obtain ⟨fuel, rfl⟩ : ∃ k, fuel = k + 1 := ⟨fuel - 1, by omega⟩
  refine ⟨[], c, ?_, by rw [hc], ?_⟩
  · rw [quotedWord]
    simp only [span_of_head (p := isQuotedChar) (c := c) (by simp [hc, hword]), peek_of_cons hc]
    simp [hsingle, hdouble, hback]
  · intro fuel' hfuel'
    rw [hc, List.length_cons] at hfuel'
    obtain ⟨fuel', rfl⟩ : ∃ k, fuel' = k + 1 := ⟨fuel' - 1, by omega⟩
    obtain ⟨c', hread, hc'⟩ := hspaces c hc
    obtain ⟨word, between, hword, hle, hmore⟩ :=
      h c' hc' (c'.rest.length + 1) (by rw [hc']; omega)
    obtain ⟨more, after, hrest, hs, hafter⟩ := hmore fuel' (by omega)
    refine ⟨text.map .char ++ word ++ more, after, ?_,
      by rw [List.nil_append, List.append_assoc, hs, List.map_append], hafter⟩
    have hquote : c.peek ≠ closingQuote double := by
      rw [peek_of_cons hc]
      cases double <;> simpa [closingQuote]
    rw [quotedRest, if_neg hquote]
    simp only [hread, hword, hrest]

/-! ### Whole scalars -/

/-- **A scalar in quotes is read as the judgment says.** -/
theorem readQuoted (h : ReadsQuoted double input s rest) {c : Cursor}
    (hc : c.rest = closingQuote double :: input) :
    ∃ after : Cursor, Document.readQuoted double c = .ok (.scalar (.ofString (String.ofList s))
      (if double then .doubleQuoted else .singleQuoted), after) ∧ after.rest = rest := by
  have hstep : c.step.rest = input := rest_step_of_cons hc
  obtain ⟨word, between, hword, -, hmore⟩ := h c.step hstep (c.step.rest.length + 1) (by
    rw [hstep]; omega)
  obtain ⟨more, after, hrest, hs, hafter⟩ := hmore (between.rest.length + 1) (by omega)
  refine ⟨after, ?_, hafter⟩
  rw [closingQuote] at hrest
  simp only [Document.readQuoted, hword, hrest, hs, Text.Loose.ofLetters_map_char]

end ReadsQuoted

end EntryTemplates.Document
