/-
**Plain texts are read back.**

A plain text is a sequence of words with blanks between them.  It ends at a colon before white
space, at a comment, or with the line if the next one is not indented; none of this happens inside
a text that was written without quotes.  A long line is broken at a single blank, and the next line
is indented.

Main definitions:

* `EntryTemplates.Document.PlainAfter` — what a plain text may hold after a character;
* `EntryTemplates.Document.Words` — words with blanks between them.

Main results:

* `EntryTemplates.Document.plainWord_append` — a word ends where white space follows;
* `EntryTemplates.Document.plainSpaces_folded` — what is read between two words;
* `EntryTemplates.Document.Words.plainWords` — words are read one after the other;
* `EntryTemplates.Document.readPlain_folded` — **a plain text is read back**.
-/

import EntryTemplates.Proofs.Document.SingleQuoted

set_option relaxedAutoImplicit false
set_option autoImplicit false

namespace EntryTemplates.Document

open Cursor

/-! ### The texts that need no quotes -/

/-- What a plain text may hold after a character, which is not part of it. -/
structure PlainAfter (before : Char) (s : List Char) : Prop where
  plain : ∀ ch ∈ s, isSpecial ch = false
  unbroken : ∀ ch ∈ s, isKeptBreak ch = false
  inner : holdsIndicator (before :: s) = false
  last : ∀ ch ∈ s.getLast?, ch ≠ ' '

theorem holdsIndicator_cons {a : Char} {s : List Char} (h : holdsIndicator (a :: s) = false) :
    holdsIndicator s = false := by
  cases s with
  | nil => rfl
  | cons b s =>
      rw [holdsIndicator, Bool.or_eq_false_iff] at h
      exact h.2

theorem holdsIndicator_append (before : List Char) {after : List Char}
    (h : holdsIndicator (before ++ after) = false) : holdsIndicator after = false := by
  induction before with
  | nil => exact h
  | cons ch before ih => exact ih (holdsIndicator_cons h)

theorem PlainAfter.of_append {before last : Char} {run after : List Char}
    (h : PlainAfter before (run ++ last :: after)) : PlainAfter last after where
  plain ch hch := h.plain ch (by simp [hch])
  unbroken ch hch := h.unbroken ch (by simp [hch])
  inner := holdsIndicator_append (before :: run) (by simpa using h.inner)
  last ch hch := h.last ch (by
    cases after with
    | nil => simp at hch
    | cons d after => simpa [List.getLast?_append, List.getLast?_cons_cons] using hch)

/-- Behind white space no comment begins. -/
theorem PlainAfter.head_ne_comment {after : List Char} (h : PlainAfter ' ' after) :
    ∀ ch ∈ after.head?, ch ≠ '#' := by
  intro ch hch
  cases after with
  | nil => simp at hch
  | cons d after =>
      obtain rfl : d = ch := by simpa using hch
      rintro rfl
      have := h.inner
      simp [holdsIndicator, isBlankOrEnd, isSpaceOrEnd] at this

/-! ### Words -/

/-- **A word ends where white space follows**; the colons in it do not end it. -/
theorem plainWord_append {word after next : List Char} {before sep : Char}
    (hword : ∀ ch ∈ word, isBlankOrEnd ch = false)
    (hinner : holdsIndicator (before :: (word ++ after)) = false)
    (hafter : spaceAhead after = true) (hsep : isBlankOrEnd sep = true) :
    plainWord false (word ++ sep :: next) = word := by
  induction word generalizing before with
  | nil => simp [plainWord, endsPlain, hsep]
  | cons ch word ih =>
      have hch : isBlankOrEnd ch = false := hword ch (by simp)
      have hrest := ih (fun d hd => hword d (List.mem_cons_of_mem _ hd))
        (holdsIndicator_cons hinner)
      -- a colon in a word has no white space behind it
      have hcolon : ch = ':' → isBlankOrEnd ((word ++ sep :: next).headD '\x00') = false := by
        rintro rfl
        rw [List.cons_append, holdsIndicator, Bool.or_eq_false_iff, Bool.or_eq_false_iff] at hinner
        have hspace : spaceAhead (word ++ after) = false := by simpa using hinner.1.1
        cases word with
        | nil => simp [hafter] at hspace
        | cons d word => simpa [spaceAhead] using hspace
      have hends : endsPlain false ch ((word ++ sep :: next).headD '\x00') = false := by
        by_cases heq : ch = ':'
        · simp only [endsPlain, hch, hcolon heq]
          simp
        · simp [endsPlain, hch, heq]
      rw [List.cons_append, plainWord, hends, hrest]
      simp

/-! ### White space between words -/

/-- Blanks move a cursor away from the first column. -/
theorem column_forward_pos {run next : List Char} (hne : run ≠ []) (hrun : ∀ ch ∈ run, ch = ' ')
    {c : Cursor} (hc : c.rest = run ++ next) : 0 < (c.forward run.length).column := by
  induction run generalizing c with
  | nil => exact absurd rfl hne
  | cons ch run ih =>
      obtain rfl : ch = ' ' := hrun ch (by simp)
      rw [List.length_cons, forward_succ]
      cases run with
      | nil =>
          have hc : c.rest = ' ' :: next := hc
          rw [List.length_nil, forward_zero, column_step_pos hc (by decide) (by decide)]
          omega
      | cons d run =>
          exact ih (by simp) (fun e he => hrun e (List.mem_cons_of_mem _ he))
            (rest_step_of_cons hc)

/-- Blanks between two words of a line. -/
theorem plainSpaces_blanks {run next : List Char} (hne : run ≠ []) (hrun : ∀ ch ∈ run, ch = ' ')
    (hnext : BeginsLine next) {c : Cursor} (hc : c.rest = run ++ next) :
    ∃ c' : Cursor, plainSpaces c = (run, false, c') ∧ c'.rest = next ∧ 0 < c'.column := by
  have hblank : ∀ ch ∈ run, decide (ch = ' ') = true := fun ch hch => by simp [hrun ch hch]
  have hother : ∀ ch ∈ next.head?, decide (ch = ' ') = false := fun ch hch => by
    simpa using (hnext ch hch).1
  have htaken : c.rest.takeWhile (· = ' ') = run := by
    rw [hc, takeWhile_append_of_head hblank hother]
  have hrest : (c.forward run.length).rest = next := by
    rw [rest_forward, hc, List.drop_left]
  refine ⟨c.forward run.length, ?_, hrest, column_forward_pos hne hrun hc⟩
  simp only [plainSpaces, span, htaken, hnext.peek hrest]
  simp

/-- The end of a line that is continued, and the beginning of the next one. -/
theorem plainSpaces_continuation {next : List Char} (hnext : BeginsLine next) {c : Cursor}
    (hc : c.rest = continuation ++ next) :
    ∃ c' : Cursor, plainSpaces c = ([' '], true, c') ∧ c'.rest = next ∧ 0 < c'.column := by
  have hc : c.rest = '\n' :: ' ' :: ' ' :: next := hc
  have hfirst : c.step.rest = ' ' :: ' ' :: next := rest_step_of_cons hc
  have hsecond : c.step.step.rest = ' ' :: next := rest_step_of_cons hfirst
  have hthird : c.step.step.step.rest = next := rest_step_of_cons hsecond
  have hspan : c.span (fun ch => decide (ch = ' ')) = ([], c) := span_of_head (by simp [hc])
  have hbreaks : plainBreaks (c.step.rest.length + 1) c.step = (some [], c.step.step.step) := by
    have hlength : c.step.rest.length + 1 = next.length + 1 + 1 + 1 := by simp [hfirst]
    rw [hlength, plainBreaks, if_pos (peek_of_cons hfirst), plainBreaks,
      if_pos (peek_of_cons hsecond), plainBreaks, if_neg (hnext.peek_ne_blank hthird)]
    simp [hnext.peek hthird]
  refine ⟨c.step.step.step, ?_, hthird, ?_⟩
  · simp only [plainSpaces, hspan, peek_of_cons hc, lineBreak_of_lineFeed hc,
      atSeparator_of_head hfirst (by decide : ' ' ≠ '-') (by decide), hbreaks]
    simp [isBreak]
  · rw [column_step_pos hsecond (by decide) (by decide)]
    omega

/-- The end of the last line. -/
theorem plainSpaces_end {next : List Char} (hnext : BeginsLine next) {c : Cursor}
    (hc : c.rest = '\n' :: next) :
    ∃ (text : List Char) (c' : Cursor), plainSpaces c = (text, true, c') ∧ c'.rest = next ∧
      c'.column = 0 := by
  have hstep : c.step.rest = next := rest_step_of_cons hc
  have hspan : c.span (fun ch => decide (ch = ' ')) = ([], c) := span_of_head (by simp [hc])
  have hbreaks : plainBreaks (c.step.rest.length + 1) c.step = (some [], c.step) := by
    rw [plainBreaks, if_neg (hnext.peek_ne_blank hstep)]
    simp [hnext.peek hstep]
  have hbreak : isBreak '\n' = true := by decide
  cases hsep : c.step.atSeparator with
  | true =>
      refine ⟨[], c.step, ?_, hstep, column_step_lineFeed hc⟩
      simp [plainSpaces, hspan, peek_of_cons hc, lineBreak_of_lineFeed hc, hsep, hbreak]
  | false =>
      refine ⟨[' '], c.step, ?_, hstep, column_step_lineFeed hc⟩
      simp [plainSpaces, hspan, peek_of_cons hc, lineBreak_of_lineFeed hc, hsep, hbreak, hbreaks]

/-! ### What is written for a text -/

/-- The characters of a word are written as they stand. -/
theorem foldedFrom_word {word : List Char}
    (hword : ∀ ch ∈ word, ch ≠ ' ' ∧ isKeptBreak ch = false) (hne : word ≠ []) (fuel : Nat)
    (inside : Bool) (column : Nat) (after : List Char) :
    foldedFrom (fun ch => [ch]) (fuel + word.length) inside column (word ++ after) =
      word ++ foldedFrom (fun ch => [ch]) fuel true (column + word.length) after := by
  induction word generalizing inside column with
  | nil => exact absurd rfl hne
  | cons ch word ih =>
      obtain ⟨hblank, hbreak⟩ := hword ch (by simp)
      rw [List.length_cons, ← Nat.add_assoc, List.cons_append, foldedFrom_char hblank hbreak]
      cases word with
      | nil => simp
      | cons d word =>
          rw [ih (fun e he => hword e (List.mem_cons_of_mem _ he)) (by simp)]
          simp [Nat.add_comm, Nat.add_left_comm]

/-- What is written for a text begins with its first character. -/
theorem exists_foldedFrom_eq {ch : Char} (hblank : ch ≠ ' ') (hbreak : isKeptBreak ch = false)
    {fuel : Nat} (hfuel : 0 < fuel) (inside : Bool) (column : Nat) (s : List Char) :
    ∃ written, foldedFrom (fun ch => [ch]) fuel inside column (ch :: s) = ch :: written := by
  obtain ⟨fuel, rfl⟩ : ∃ k, fuel = k + 1 := ⟨fuel - 1, by omega⟩
  rw [foldedFrom_char hblank hbreak]
  exact ⟨_, rfl⟩

/-- So it begins a line if that character is no white space. -/
theorem PlainAfter.beginsLine {before ch : Char} {s : List Char} (hs : PlainAfter before (ch :: s))
    (hblank : ch ≠ ' ') {fuel : Nat} (hfuel : 0 < fuel) (inside : Bool) (column : Nat)
    (next : List Char) :
    BeginsLine (foldedFrom (fun ch => [ch]) fuel inside column (ch :: s) ++ next) := by
  have hbreak := hs.unbroken ch (by simp)
  obtain ⟨written, hwritten⟩ := exists_foldedFrom_eq hblank hbreak hfuel inside column s
  obtain ⟨htab, hret, -, -⟩ := ne_of_not_isSpecial (hs.plain ch (by simp))
  simp only [isKeptBreak, Bool.or_eq_false_iff, decide_eq_false_iff_not] at hbreak
  rw [hwritten, List.cons_append]
  exact beginsLine_cons hblank htab (by simp [isBreak, hret, hbreak])

/-- Nothing is written for less than it takes. -/
theorem length_le_foldedFrom {escape : Char → List Char} (hescape : ∀ ch, escape ch ≠ [])
    {s : List Char} {fuel : Nat} (hfuel : s.length < fuel) (inside : Bool) (column : Nat) :
    s.length ≤ (foldedFrom escape fuel inside column s).length := by
  obtain ⟨fuel, rfl⟩ : ∃ k, fuel = k + 1 := ⟨fuel - 1, by omega⟩
  induction s using pieces_induction generalizing fuel inside column with
  | nil => simp
  | @blanks run after hrun hafter ih =>
      simp only [List.length_cons, List.length_append] at hfuel
      obtain ⟨fuel, rfl⟩ : ∃ k, fuel = k + 1 := ⟨fuel - 1, by omega⟩
      rw [foldedFrom_blanks hrun hafter]
      split
      · rename_i hfold
        obtain ⟨rfl, -⟩ := hfold
        have hmore := ih true continuationColumn fuel (by omega)
        simp [continuation]
        omega
      · have hmore := ih true (column + 1 + run.length) fuel (by omega)
        simp
        omega
  | @breaks ch run after hch hrun hafter ih =>
      simp only [List.length_cons, List.length_append] at hfuel
      obtain ⟨fuel, rfl⟩ : ∃ k, fuel = k + 1 := ⟨fuel - 1, by omega⟩
      have hmore := ih true continuationColumn fuel (by omega)
      rw [foldedFrom_breaks hch hrun hafter]
      simp [writtenBreaks]
      omega
  | @char ch after hblank hbreak ih =>
      rw [List.length_cons] at hfuel
      obtain ⟨fuel, rfl⟩ : ∃ k, fuel = k + 1 := ⟨fuel - 1, by omega⟩
      have hmore := ih true (column + (escape ch).length) fuel (by omega)
      have hpos := List.length_pos_iff.2 (hescape ch)
      rw [foldedFrom_char hblank hbreak]
      simp
      omega

/-! ### Whole texts -/

/-- A word: neither blanks nor line breaks are part of it. -/
structure IsWord (word : List Char) : Prop where
  ne : word ≠ []
  solid : ∀ ch ∈ word, ch ≠ ' ' ∧ isKeptBreak ch = false

/-- Words with blanks between them. -/
inductive Words : List Char → Prop where
  | last {word : List Char} (hword : IsWord word) : Words word
  | more {word run after : List Char} (hword : IsWord word) (hrun : ∀ ch ∈ run, ch = ' ')
      (hafter : Words after) : Words (word ++ ' ' :: (run ++ after))

theorem Words.exists_cons {s : List Char} (h : Words s) :
    ∃ ch t, s = ch :: t ∧ ch ≠ ' ' := by
  obtain ⟨word, after, rfl, hword⟩ : ∃ word after, s = word ++ after ∧ IsWord word := by
    cases h with
    | last hword => exact ⟨_, [], (List.append_nil _).symm, hword⟩
    | more hword hrun hafter => exact ⟨_, _, rfl, hword⟩
  obtain ⟨ch, t, rfl⟩ := List.exists_cons_of_ne_nil hword.ne
  exact ⟨ch, t ++ after, rfl, (hword.solid ch (by simp)).1⟩

/-- A word after which the text goes on. -/
theorem plainWords_more (spaces : List Char) {c c' c'' : Cursor} {word text more : List Char}
    {broke brokeLater : Bool} {fuel : Nat} (hcomment : c.peek ≠ '#')
    (hword : plainWord false c.rest = word) (hne : word ≠ [])
    (hspaces : plainSpaces (c.forward word.length) = (text, broke, c')) (htext : text ≠ [])
    (hcomment' : c'.peek ≠ '#') (hcolumn : 0 < c'.column)
    (hmore : plainWords false 1 fuel text c' = (more, true, brokeLater, c'')) :
    plainWords false 1 (fuel + 1) spaces c = (spaces ++ word ++ more, true, brokeLater, c'') := by
  have hindent : ¬ ((c'.column : Int) < 1) := by omega
  rw [plainWords, if_neg hcomment]
  simp [hword, hne, hspaces, htext, hcomment', hindent, hmore]

/-- A word after which the line ends and the next one is not indented. -/
theorem plainWords_last {c c' : Cursor} {word text spaces : List Char} {broke : Bool} {fuel : Nat}
    (hcomment : c.peek ≠ '#') (hword : plainWord false c.rest = word) (hne : word ≠ [])
    (hspaces : plainSpaces (c.forward word.length) = (text, broke, c')) (hcolumn : c'.column = 0) :
    plainWords false 1 (fuel + 1) spaces c = (spaces ++ word, true, broke, c') := by
  rw [plainWords, if_neg hcomment]
  simp [hword, hne, hspaces, hcolumn]

theorem blanks_concat {run : List Char} (hrun : ∀ ch ∈ run, ch = ' ') :
    ' ' :: run = run ++ [' '] := by
  rw [List.eq_replicate_iff.2 ⟨rfl, hrun⟩, ← List.replicate_succ, List.replicate_succ']

/-- The rest of a plain text after a run of blanks. -/
theorem PlainAfter.after_blanks {before : Char} {word run after : List Char}
    (hrun : ∀ ch ∈ run, ch = ' ') (hs : PlainAfter before (word ++ ' ' :: (run ++ after))) :
    PlainAfter ' ' after ∧ after ≠ [] := by
  have hsplit : word ++ ' ' :: (run ++ after) = (word ++ run) ++ ' ' :: after := by
    rw [← List.cons_append, blanks_concat hrun]
    simp
  rw [hsplit] at hs
  refine ⟨hs.of_append, ?_⟩
  rintro rfl
  exact hs.last ' ' (by simp) rfl

/-- A plain text that does not begin with a blank is made of words. -/
theorem PlainAfter.words {before : Char} {s : List Char} (hs : PlainAfter before s) (hne : s ≠ [])
    (hhead : ∀ ch ∈ s.head?, ch ≠ ' ') : Words s := by
  -- by the length, as a word and the blanks after it are taken at once
  suffices h : ∀ (n : Nat) {before : Char} {s : List Char}, PlainAfter before s → s ≠ [] →
      (∀ ch ∈ s.head?, ch ≠ ' ') → s.length ≤ n → Words s from h s.length hs hne hhead le_rfl
  intro n
  induction n with
  | zero =>
      intro before s _ hne _ hn
      exact absurd (List.length_eq_zero_iff.1 (Nat.le_zero.1 hn)) hne
  | succ n ih =>
      intro before s hs hne hhead hn
      obtain ⟨word, after, rfl, hrun, hafter⟩ := exists_run (fun ch => decide (ch ≠ ' ')) s
      have hword : IsWord word := by
        refine ⟨?_, fun ch hch => ⟨by simpa using hrun ch hch,
          hs.unbroken ch (List.mem_append_left _ hch)⟩⟩
        rintro rfl
        cases after with
        | nil => exact hne rfl
        | cons ch after => exact absurd (hafter ch (by simp)) (by simpa using hhead ch (by simp))
      cases after with
      | nil =>
          rw [List.append_nil]
          exact .last hword
      | cons blank after =>
          obtain rfl : blank = ' ' := by simpa using hafter blank (by simp)
          obtain ⟨run, after, rfl, hrun, hother⟩ := exists_run (fun ch => decide (ch = ' ')) after
          have hblanks : ∀ ch ∈ run, ch = ' ' := by simpa using hrun
          obtain ⟨hrest, hmore⟩ := hs.after_blanks hblanks
          simp only [List.length_append, List.length_cons] at hn
          exact .more hword hblanks (ih hrest hmore (by simpa using hother) (by omega))

section Reading

variable {before : Char} {word run after next : List Char} {fuel column : Nat} {inside : Bool}
  {c : Cursor}

/-- At a word: what is ahead after it, and that it ends there if that is white space. -/
theorem PlainAfter.at_word (hs : PlainAfter before (word ++ after)) (hword : IsWord word)
    (hahead : spaceAhead after = true) (hhead : ∀ ch ∈ (word ++ after).head?, ch ≠ '#')
    (hc : c.rest = foldedFrom (fun ch => [ch]) (fuel + word.length) inside column (word ++ after)
      ++ '\n' :: next) :
    c.peek ≠ '#' ∧
      (c.forward word.length).rest =
        foldedFrom (fun ch => [ch]) fuel true (column + word.length) after ++ '\n' :: next ∧
      ∀ {sep : Char} {more : List Char}, (c.forward word.length).rest = sep :: more →
        isBlankOrEnd sep = true → plainWord false c.rest = word := by
  rw [foldedFrom_word hword.solid hword.ne, List.append_assoc] at hc
  have hmoved : (c.forward word.length).rest =
      foldedFrom (fun ch => [ch]) fuel true (column + word.length) after ++ '\n' :: next := by
    rw [rest_forward, hc, List.drop_left]
  have hinside : ∀ ch ∈ word, isBlankOrEnd ch = false := fun ch hch => by
    rw [isBlankOrEnd_of_not_isSpecial (hs.plain ch (List.mem_append_left _ hch))]
    simp [hword.solid ch hch]
  refine ⟨?_, hmoved, fun {sep more} hmore hsep => ?_⟩
  · obtain ⟨first, others, rfl⟩ := List.exists_cons_of_ne_nil hword.ne
    rw [peek_of_cons hc]
    exact hhead first (by simp)
  · rw [hc, ← hmoved, hmore]
    exact plainWord_append hinside hs.inner hahead hsep

/-- Between two words: the blanks are read, whether they end the line or not. -/
theorem plainSpaces_folded (hrun : ∀ ch ∈ run, ch = ' ') (hafter : PlainAfter ' ' after)
    (hwords : Words after) (hfuel : 0 < fuel)
    (hc : c.rest = foldedFrom (fun ch => [ch]) (fuel + 1) true column (' ' :: (run ++ after))
      ++ '\n' :: next) :
    ∃ sep more broke, ∃ (c' : Cursor) (column' : Nat), c.rest = sep :: more ∧
      isBlankOrEnd sep = true ∧ plainSpaces c = (' ' :: run, broke, c') ∧
      c'.rest = foldedFrom (fun ch => [ch]) fuel true column' after ++ '\n' :: next ∧
      0 < c'.column := by
  obtain ⟨first, others, rfl, hfirst⟩ := hwords.exists_cons
  have hother : ∀ ch ∈ (first :: others).head?, decide (ch = ' ') = false := by simpa using hfirst
  have hbegins := hafter.beginsLine hfirst hfuel
  have hall : ∀ ch ∈ ' ' :: run, ch = ' ' := by simpa using hrun
  rw [foldedFrom_blanks (by simpa using hrun) hother] at hc
  split at hc
  · rename_i hfold
    obtain ⟨rfl, -⟩ := hfold
    rw [List.append_assoc] at hc
    obtain ⟨c', hspaces, hc', hcolumn⟩ := plainSpaces_continuation (hbegins _ _ _) hc
    exact ⟨'\n', _, true, c', continuationColumn, hc, by decide, hspaces, hc', hcolumn⟩
  · rw [List.append_assoc] at hc
    obtain ⟨c', hspaces, hc', hcolumn⟩ := plainSpaces_blanks (by simp) hall (hbegins _ _ _) hc
    exact ⟨' ', _, false, c', _, hc, by decide, hspaces, hc', hcolumn⟩

end Reading

/-- The words of a plain text, one after the other. -/
theorem Words.plainWords {next : List Char} (hnext : BeginsLine next) {s : List Char}
    (h : Words s) {before : Char} (hs : PlainAfter before s) (hhead : ∀ ch ∈ s.head?, ch ≠ '#')
    {fuel fuel' : Nat} (hfuel : s.length < fuel) (hfuel' : s.length < fuel') (inside : Bool)
    (column : Nat) (spaces : List Char) {c : Cursor}
    (hc : c.rest = foldedFrom (fun ch => [ch]) fuel inside column s ++ '\n' :: next) :
    ∃ c' : Cursor, Document.plainWords false 1 fuel' spaces c = (spaces ++ s, true, true, c') ∧
      c'.rest = next ∧ c'.column = 0 := by
  induction h generalizing before fuel fuel' inside column spaces c with
  | @last word hword =>
      obtain ⟨fuel, rfl⟩ : ∃ k, fuel = k + 1 + word.length := ⟨fuel - 1 - word.length, by omega⟩
      obtain ⟨fuel', rfl⟩ : ∃ k, fuel' = k + 1 := ⟨fuel' - 1, by omega⟩
      rw [← List.append_nil word] at hs hhead hc
      obtain ⟨hcomment, hmoved, hends⟩ := hs.at_word hword rfl hhead (by simpa using hc)
      have hline : (c.forward word.length).rest = '\n' :: next := by simpa [foldedFrom] using hmoved
      obtain ⟨text, c', hspaces, hc', hcolumn⟩ := plainSpaces_end hnext hline
      exact ⟨c', plainWords_last hcomment (hends hline (by decide)) hword.ne hspaces hcolumn, hc',
        hcolumn⟩
  | @more word run after hword hrun hafter ih =>
      simp only [List.length_append, List.length_cons] at hfuel hfuel'
      obtain ⟨fuel, rfl⟩ : ∃ k, fuel = k + 1 + word.length := ⟨fuel - 1 - word.length, by omega⟩
      obtain ⟨fuel', rfl⟩ : ∃ k, fuel' = k + 1 := ⟨fuel' - 1, by omega⟩
      have hahead : spaceAhead (' ' :: (run ++ after)) = true := by
        simp [spaceAhead, isBlankOrEnd, isSpaceOrEnd]
      obtain ⟨hcomment, hmoved, hends⟩ := hs.at_word hword hahead hhead hc
      obtain ⟨hrest, -⟩ := hs.after_blanks hrun
      obtain ⟨sep, more, broke, c', column', hsep, hblank, hspaces, hc', hcolumn⟩ :=
        plainSpaces_folded hrun hrest hafter (by omega) hmoved
      have hfuel' : after.length < fuel' := by omega
      obtain ⟨c'', hwords, hc'', hcolumn'⟩ := ih hrest hrest.head_ne_comment (by omega) hfuel' true
        column' (' ' :: run) hc'
      have hcomment' : c'.peek ≠ '#' := by
        obtain ⟨first, others, rfl, hfirst⟩ := hafter.exists_cons
        obtain ⟨written, hwritten⟩ := exists_foldedFrom_eq hfirst (hrest.unbroken first (by simp))
          (by omega : 0 < fuel) true column' others
        rw [hwritten, List.cons_append] at hc'
        rw [peek_of_cons hc']
        exact hrest.head_ne_comment first (by simp)
      refine ⟨c'', ?_, hc'', hcolumn'⟩
      have hall := plainWords_more spaces hcomment (hends hsep hblank) hword.ne hspaces (by simp)
        hcomment' hcolumn hwords
      simpa using hall

/-- A text that may start without quotes starts with no comment. -/
theorem head_ne_comment_of_start {s : List Char} (h : startsWithIndicator s = false) :
    ∀ ch ∈ s.head?, ch ≠ '#' := by
  rintro ch hch rfl
  cases s with
  | nil => simp at hch
  | cons d t =>
      obtain rfl : d = '#' := by simpa using hch
      simp [startsWithIndicator] at h

/-- Behind a dash such a text ends no sooner than elsewhere. -/
theorem holdsIndicator_dash {s : List Char} (hstart : startsWithIndicator s = false)
    (hholds : holdsIndicator s = false) : holdsIndicator ('-' :: s) = false := by
  cases s with
  | nil => rfl
  | cons d t =>
      simp only [startsWithIndicator, Bool.or_eq_false_iff] at hstart
      have hcolon : (decide (d = ':') && spaceAhead t) = false := by
        by_cases hd : d = ':'
        · simpa [hd] using hstart.1.1.2
        · simp [hd]
      rw [holdsIndicator, hholds, hcolon]
      simp [isBlankOrEnd, isSpaceOrEnd, isBreakOrEnd, isBreak]

/-- What it takes for a text to be written without quotes. -/
theorem formOf_eq_plain {s : String} (h : formOf s = .plain) :
    PlainAfter '-' s.toList ∧ s.toList ≠ [] ∧ startsWithIndicator s.toList = false ∧
      (∀ ch ∈ s.toList.head?, ch ≠ ' ' ∧ ch ≠ '#') ∧ resolve s = .str := by
  rw [formOf] at h
  split at h
  · exact absurd h (by decide)
  · rename_i hescaped
    split at h
    · rename_i hplain
      simp only [Traits.of, not_or, Bool.not_eq_true, Bool.not_eq_true', Bool.or_eq_false_iff,
        List.any_eq_false] at hescaped hplain
      obtain ⟨htag, ⟨hstart, hholds⟩, hbreak, hfirst, hlast⟩ := hplain
      have hne : s.toList ≠ [] := by
        intro hnil
        rw [String.toList_eq_nil_iff.1 hnil] at htag
        exact absurd htag (by decide)
      have hblank : ∀ ch ∈ s.toList.head?, ch ≠ ' ' := by
        rintro ch hch rfl
        rw [Option.mem_def.1 hch] at hfirst
        exact absurd hfirst (by decide)
      refine ⟨⟨fun ch hch => by simpa using hescaped.1 ch hch,
        fun ch hch => by simpa using hbreak ch hch, holdsIndicator_dash hstart hholds, ?_⟩, hne,
        hstart, fun ch hch => ⟨hblank ch hch, head_ne_comment_of_start hstart ch hch⟩, htag⟩
      rintro ch hch rfl
      rw [Option.mem_def.1 hch] at hlast
      exact absurd hlast (by decide)
    · exact absurd h (by decide)

/-- **A plain text is read back**, and the cursor stands at the beginning of the next line. -/
theorem readPlain_folded {s : String} (hs : formOf s = .plain) {next : List Char}
    (hnext : BeginsLine next) {column : Nat} {c : Cursor}
    (hc : c.rest = folded (fun ch => [ch]) column s.toList ++ '\n' :: next) :
    ∃ c' : Cursor, readPlain false 1 c = (.scalar s .plain, true, c') ∧ c'.rest = next ∧
      c'.column = 0 := by
  obtain ⟨hplain, hne, -, hhead, -⟩ := formOf_eq_plain hs
  have hlength := length_le_foldedFrom (fun ch : Char => List.cons_ne_nil ch [])
    (Nat.lt_add_one s.toList.length) false column
  have hfuel : s.toList.length < c.rest.length + 1 := by
    rw [hc, folded, List.length_append]
    omega
  have hwords := hplain.words hne fun ch hch => (hhead ch hch).1
  obtain ⟨c', hread, hc', hcolumn⟩ := hwords.plainWords hnext hplain
    (fun ch hch => (hhead ch hch).2) (Nat.lt_add_one _) hfuel false column [] hc
  refine ⟨c', ?_, hc', hcolumn⟩
  rw [readPlain, hread]
  simp

end EntryTemplates.Document
