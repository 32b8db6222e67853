/-
**Texts in single quotes are read back, next-line characters apart.**

Between single quotes only the quote is written in another way, by two of them.  A long line is
broken at a single blank, which is read as that blank again; the first of several line feeds is
written twice for the same reason.  A next-line character, however, is read as a line feed like any
other line break, so that a text that holds one never comes back.

Main definitions:

* `EntryTemplates.Document.Foldable` — the texts that single quotes can hold;
* `EntryTemplates.Document.ReadBack` — what is read for a text in single quotes;
* `EntryTemplates.Document.ComesBack` — texts that are read back from wherever they are written.

Main results:

* `EntryTemplates.Document.quotedSpaces_writtenBreaks` — line breaks inside single quotes;
* `EntryTemplates.Document.pieces_induction` — induction on the pieces of a text;
* `EntryTemplates.Document.Foldable.comesBack` — **a text in single quotes is read back**.
-/

import EntryTemplates.Proofs.Document.QuotedText

set_option relaxedAutoImplicit false
set_option autoImplicit false

namespace EntryTemplates.Document

open Cursor

/-! ### The texts that single quotes can hold -/

/-- A text without characters that have to be escaped and without blanks next to line breaks. -/
structure Foldable (s : List Char) : Prop where
  plain : ∀ ch ∈ s, isSpecial ch = false
  apart : holdsSpaceAtBreak s = false

theorem holdsSpaceAtBreak_of_append {before after : List Char}
    (h : holdsSpaceAtBreak (before ++ after) = false) : holdsSpaceAtBreak after = false := by
  induction before with
  | nil => exact h
  | cons ch before ih =>
      refine ih ?_
      cases hmore : before ++ after with
      | nil => rfl
      | cons next more =>
          rw [List.cons_append, hmore, holdsSpaceAtBreak, Bool.or_eq_false_iff] at h
          exact h.2

/-- What stands after a run of blanks or of line breaks is not of the other kind. -/
theorem not_space_at_break {before after : List Char} {a b : Char}
    (h : holdsSpaceAtBreak (before ++ a :: b :: after) = false) :
    (a = ' ' → isKeptBreak b = false) ∧ (isKeptBreak a = true → b ≠ ' ') := by
  have h := holdsSpaceAtBreak_of_append h
  simp only [holdsSpaceAtBreak, Bool.or_eq_false_iff, Bool.and_eq_false_iff,
    decide_eq_false_iff_not] at h
  grind

theorem Foldable.of_append {before after : List Char} (h : Foldable (before ++ after)) :
    Foldable after :=
  ⟨fun ch hch => h.plain ch (List.mem_append_right _ hch), holdsSpaceAtBreak_of_append h.apart⟩

/-! ### Line breaks -/

/-- What is read for a run of line breaks: a next-line character at its beginning is lost, or leaves
a blank behind if it stands alone. -/
def readBreaks (breaks : List Char) : List Char :=
  if breaks = ['\u0085'] then [' ']
  else if breaks.head? = some '\u0085' then breaks.tail.map readBreak
  else breaks.map readBreak

theorem map_readBreak {breaks : List Char} (h : '\u0085' ∉ breaks) :
    breaks.map readBreak = breaks := by
  have : ∀ ch ∈ breaks, readBreak ch = id ch := by
    intro ch hch
    have hne : ch ≠ '\u0085' := fun heq => h (heq ▸ hch)
    simp [readBreak, hne]
  rw [List.map_congr_left this, List.map_id]

theorem not_mem_map_readBreak (breaks : List Char) : '\u0085' ∉ breaks.map readBreak := by
  intro h
  obtain ⟨ch, -, hch⟩ := List.mem_map.1 h
  rw [readBreak] at hch
  split at hch
  · exact absurd hch (by decide)
  · rename_i hne
    exact hne hch

/-- A line break or a blank begins no separator of documents. -/
theorem atSeparator_of_head {c : Cursor} {ch : Char} {after : List Char}
    (h : c.rest = ch :: after) (hdash : ch ≠ '-') (hdot : ch ≠ '.') : c.atSeparator = false := by
  rw [atSeparator, h]
  split
  · rename_i heq
    obtain ⟨rfl, -⟩ := List.cons.inj heq
    simp [hdash, hdot]
  · rfl

/-- The first character of the next line. -/
def BeginsLine (next : List Char) : Prop :=
  ∀ ch ∈ next.head?, ch ≠ ' ' ∧ ch ≠ '\t' ∧ isBreak ch = false

theorem beginsLine_cons {ch : Char} {next : List Char} (hblank : ch ≠ ' ') (htab : ch ≠ '\t')
    (hbreak : isBreak ch = false) : BeginsLine (ch :: next) := by
  intro d hd
  obtain rfl : ch = d := by simpa using hd
  exact ⟨hblank, htab, hbreak⟩

theorem BeginsLine.not_gap {next : List Char} (h : BeginsLine next) :
    ∀ ch ∈ next.head?, (decide (ch = ' ') || decide (ch = '\t')) = false := by
  intro ch hch
  obtain ⟨hblank, htab, -⟩ := h ch hch
  simp [hblank, htab]

theorem BeginsLine.peek {next : List Char} (h : BeginsLine next) {c : Cursor}
    (hc : c.rest = next) : isBreak c.peek = false := by
  cases next with
  | nil => rw [peek_of_nil hc]; decide
  | cons ch after => rw [peek_of_cons hc]; exact (h ch (by simp)).2.2

theorem BeginsLine.peek_ne_blank {next : List Char} (h : BeginsLine next) {c : Cursor}
    (hc : c.rest = next) : c.peek ≠ ' ' := by
  cases next with
  | nil => rw [peek_of_nil hc]; decide
  | cons ch after => rw [peek_of_cons hc]; exact (h ch (by simp)).1

/-- The beginning of a continued line is passed over. -/
theorem quotedBreaks_continuation {next : List Char} (hnext : BeginsLine next) {c : Cursor}
    (hc : c.rest = ' ' :: ' ' :: next) {fuel : Nat} (hfuel : 0 < fuel) :
    ∃ c' : Cursor, quotedBreaks fuel c = .ok ([], c') ∧ c'.rest = next := by
  obtain ⟨fuel, rfl⟩ : ∃ k, fuel = k + 1 := ⟨fuel - 1, by omega⟩
  have hrest : (c.skipWhile fun ch => ch = ' ' || ch = '\t').rest = next := by
    rw [skipWhile, rest_span, hc]
    exact @dropWhile_append_of_head _ [' ', ' '] _ (by simp) hnext.not_gap
  refine ⟨c.skipWhile fun ch => ch = ' ' || ch = '\t', ?_, hrest⟩
  rw [quotedBreaks, atSeparator_of_head hc (by decide) (by decide)]
  simp [hnext.peek hrest]

/-- Line breaks and the beginning of the next line. -/
theorem quotedBreaks_breaks {breaks next : List Char}
    (hbreaks : ∀ ch ∈ breaks, isKeptBreak ch = true) (hnext : BeginsLine next) {c : Cursor}
    (hc : c.rest = breaks ++ ' ' :: ' ' :: next) {fuel : Nat} (hfuel : breaks.length < fuel) :
    ∃ c' : Cursor, quotedBreaks fuel c = .ok (breaks.map readBreak, c') ∧ c'.rest = next := by
  induction breaks generalizing c fuel with
  | nil => exact quotedBreaks_continuation hnext hc (by omega)
  | cons ch breaks ih =>
      obtain ⟨fuel, rfl⟩ : ∃ k, fuel = k + 1 := ⟨fuel - 1, by omega⟩
      have hch : isKeptBreak ch = true := hbreaks ch (by simp)
      have hne : ch ≠ '-' ∧ ch ≠ '.' ∧ ch ≠ ' ' ∧ ch ≠ '\t' := by
        refine ⟨?_, ?_, ?_, ?_⟩ <;> (rintro rfl; exact absurd hch (by decide))
      obtain ⟨hdash, hdot, hblank, htab⟩ := hne
      rw [List.cons_append] at hc
      rw [List.length_cons] at hfuel
      obtain ⟨c', hread, hc'⟩ := ih (fun ch hch => hbreaks ch (List.mem_cons_of_mem _ hch))
        (rest_step_of_cons hc) (Nat.lt_of_succ_lt_succ hfuel)
      have hskip : (c.skipWhile fun ch => ch = ' ' || ch = '\t') = c := by
        rw [skipWhile, span_of_head]
        simp [hc, hblank, htab]
      refine ⟨c', ?_, hc'⟩
      rw [quotedBreaks, atSeparator_of_head hc hdash hdot]
      simp [hskip, peek_of_cons hc, isBreak_of_isKeptBreak hch, lineBreak_of_kept hc hch, hread]

/-- **Line breaks inside single quotes** are read as they were written, next-line characters
apart. -/
theorem quotedSpaces_writtenBreaks {breaks next : List Char} (hne : breaks ≠ [])
    (hbreaks : ∀ ch ∈ breaks, isKeptBreak ch = true) (hnext : BeginsLine next) {c : Cursor}
    (hc : c.rest = writtenBreaks breaks ++ next) :
    ∃ c' : Cursor, quotedSpaces c = .ok (readBreaks breaks, c') ∧ c'.rest = next := by
  obtain ⟨first, more, rfl⟩ := List.exists_cons_of_ne_nil hne
  have hfirst : isKeptBreak first = true := hbreaks first (by simp)
  -- what is written is one break, and then breaks that are read one by one
  obtain ⟨begun, others, hwritten, hothers, hbegun, hresult⟩ :
      ∃ begun others, writtenBreaks (first :: more) = begun :: others ++ [' ', ' ']
        ∧ (∀ ch ∈ others, isKeptBreak ch = true) ∧ isKeptBreak begun = true
        ∧ readBreaks (first :: more) = (if [readBreak begun] ≠ ['\n'] then [readBreak begun]
            else if others.map readBreak = [] then [' '] else []) ++ others.map readBreak := by
    by_cases hfeed : first = '\n'
    · subst hfeed
      refine ⟨'\n', '\n' :: more, by simp [writtenBreaks], hbreaks, by decide, ?_⟩
      simp [readBreaks, readBreak]
    · refine ⟨first, more, by simp [writtenBreaks, hfeed],
        fun ch hch => hbreaks ch (List.mem_cons_of_mem _ hch), hfirst, ?_⟩
      by_cases hlost : first = '\u0085'
      · subst hlost
        cases more <;> simp [readBreaks, readBreak]
      · simp [readBreaks, readBreak, hlost, hfeed]
  have hc : c.rest = begun :: (others ++ ' ' :: ' ' :: next) := by
    rw [hc, hwritten]
    simp
  have hspan : c.span (fun ch => ch = ' ' || ch = '\t') = ([], c) := by
    refine span_of_head ?_
    rw [hc]
    intro ch hch
    obtain rfl : begun = ch := by simpa using hch
    cases hgap : decide (begun = ' ') || decide (begun = '\t') with
    | false => rfl
    | true =>
        rcases (by simpa using hgap : begun = ' ' ∨ begun = '\t') with rfl | rfl <;>
          exact absurd hbegun (by decide)
  have hend : begun ≠ '\x00' := by
    rintro rfl
    exact absurd hbegun (by decide)
  have hstep : c.step.rest = others ++ ' ' :: ' ' :: next := rest_step_of_cons hc
  have hfuel : others.length < c.step.rest.length + 1 := by
    rw [hstep, List.length_append]
    omega
  obtain ⟨c', hread, hc'⟩ := quotedBreaks_breaks hothers hnext hstep hfuel
  refine ⟨c', ?_, hc'⟩
  rw [hresult, quotedSpaces]
  simp only [hspan, peek_of_cons hc, if_neg hend, isBreak_of_isKeptBreak hbegun, if_true,
    lineBreak_of_kept hc hbegun, hread]

/-- A blank at which the line was broken. -/
theorem quotedSpaces_continuation {next : List Char} (hnext : BeginsLine next) {c : Cursor}
    (hc : c.rest = continuation ++ next) :
    ∃ c' : Cursor, quotedSpaces c = .ok ([' '], c') ∧ c'.rest = next := by
  have hc : c.rest = '\n' :: ' ' :: ' ' :: next := hc
  have hspan : c.span (fun ch => ch = ' ' || ch = '\t') = ([], c) := span_of_head (by simp [hc])
  have hstep : c.step.rest = ' ' :: ' ' :: next := rest_step_of_cons hc
  obtain ⟨c', hread, hc'⟩ := quotedBreaks_continuation hnext hstep
    (Nat.succ_pos c.step.rest.length)
  refine ⟨c', ?_, hc'⟩
  rw [quotedSpaces]
  simp only [hspan, peek_of_cons hc, lineBreak_of_lineFeed hc, hread]
  simp [isBreak]

/-- Blanks that do not stand at the end of a line. -/
theorem quotedSpaces_blanks {blanks next : List Char} (hblanks : ∀ ch ∈ blanks, ch = ' ')
    (hnext : BeginsLine next) (hend : next.head?.any (· ≠ '\x00') = true) {c : Cursor}
    (hc : c.rest = blanks ++ next) :
    ∃ c' : Cursor, quotedSpaces c = .ok (blanks, c') ∧ c'.rest = next := by
  have hgap : ∀ ch ∈ blanks, (decide (ch = ' ') || decide (ch = '\t')) = true := by
    intro ch hch
    simp [hblanks ch hch]
  have htaken : (c.span fun ch => ch = ' ' || ch = '\t').1 = blanks := by
    rw [span, hc]
    exact takeWhile_append_of_head hgap hnext.not_gap
  have hrest : (c.span fun ch => ch = ' ' || ch = '\t').2.rest = next := by
    rw [rest_span, hc]
    exact dropWhile_append_of_head hgap hnext.not_gap
  have hpeek : (c.span fun ch => ch = ' ' || ch = '\t').2.peek ≠ '\x00' := by
    cases next with
    | nil => simp at hend
    | cons ch after => rw [peek_of_cons hrest]; simpa using hend
  refine ⟨_, ?_, hrest⟩
  simp only [quotedSpaces, if_neg hpeek, hnext.peek hrest, htaken]
  simp

/-! ### What is read for a text -/

/-- What is read for a text in single quotes: the text itself, unless it holds a next-line
character, which is never read. -/
structure ReadBack (s s' : List Char) : Prop where
  same : '\u0085' ∉ s → s' = s
  lost : '\u0085' ∉ s'

theorem ReadBack.append {s s' t t' : List Char} (hs : ReadBack s s') (ht : ReadBack t t') :
    ReadBack (s ++ t) (s' ++ t') := by
  constructor
  · intro h
    rw [hs.same fun hmem => h (List.mem_append_left _ hmem),
      ht.same fun hmem => h (List.mem_append_right _ hmem)]
  · intro h
    rcases List.mem_append.1 h with h | h
    · exact hs.lost h
    · exact ht.lost h

theorem ReadBack.of_not_mem {s : List Char} (h : '\u0085' ∉ s) : ReadBack s s :=
  ⟨fun _ => rfl, h⟩

theorem readBack_readBreaks (breaks : List Char) : ReadBack breaks (readBreaks breaks) := by
  constructor
  · intro h
    have hne : breaks ≠ ['\u0085'] := by
      rintro rfl
      simp at h
    have hhead : breaks.head? ≠ some '\u0085' := fun heq => h (List.mem_of_mem_head? heq)
    rw [readBreaks, if_neg hne, if_neg hhead, map_readBreak h]
  · rw [readBreaks]
    split
    · decide
    · split
      · exact not_mem_map_readBreak _
      · exact not_mem_map_readBreak _

/-- What is written for a text begins with its first character, if that is no white space. -/
theorem head?_foldedFrom {s rest : List Char} {fuel : Nat} (hfuel : s.length < fuel)
    (hhead : ∀ ch ∈ s.head?, ch ≠ ' ' ∧ isKeptBreak ch = false) (inside : Bool) (column : Nat) :
    (foldedFrom singleChar fuel inside column s ++ '\'' :: rest).head?
      = some (s.head?.getD '\'') := by
  obtain ⟨fuel, rfl⟩ : ∃ k, fuel = k + 1 := ⟨fuel - 1, by omega⟩
  cases s with
  | nil => simp [foldedFrom]
  | cons ch s =>
      obtain ⟨hblank, hbreak⟩ := hhead ch (by simp)
      simp only [foldedFrom, hblank, hbreak, singleChar]
      by_cases hquote : ch = '\'' <;> simp [hquote]

/-- The rest of a text after a run of blanks or breaks begins a line if it is not itself white
space. -/
theorem beginsLine_foldedFrom {s rest : List Char} {fuel : Nat} (hfuel : s.length < fuel)
    (hs : Foldable s) (hhead : ∀ ch ∈ s.head?, ch ≠ ' ' ∧ isKeptBreak ch = false) (inside : Bool)
    (column : Nat) : BeginsLine (foldedFrom singleChar fuel inside column s ++ '\'' :: rest) := by
  intro ch hch
  rw [head?_foldedFrom hfuel hhead, Option.mem_def, Option.some.injEq] at hch
  cases s with
  | nil => subst hch; decide
  | cons first s =>
      obtain rfl : first = ch := by simpa using hch
      obtain ⟨hblank, hbreak⟩ := hhead first (by simp)
      obtain ⟨htab, hret, hnull, -⟩ := ne_of_not_isSpecial (hs.plain first (by simp))
      refine ⟨hblank, htab, ?_⟩
      simp only [isKeptBreak, Bool.or_eq_false_iff, decide_eq_false_iff_not] at hbreak
      simp [isBreak, hret, hbreak]

/-- A run of blanks or breaks ends where something else stands that is no white space. -/
theorem Foldable.after_run {run after : List Char} {p : Char → Bool} (hs : Foldable (run ++ after))
    (hne : run ≠ []) (hrun : ∀ ch ∈ run, p ch = true) (hafter : ∀ ch ∈ after.head?, p ch = false)
    (hp : (∀ ch, p ch = decide (ch = ' ')) ∨ ∀ ch, p ch = isKeptBreak ch) :
    ∀ ch ∈ after.head?, ch ≠ ' ' ∧ isKeptBreak ch = false := by
  intro ch hch
  obtain ⟨tail, rfl⟩ : ∃ tail, after = ch :: tail := by
    cases after with
    | nil => simp at hch
    | cons first tail => exact ⟨tail, by simpa using hch⟩
  have hlast := hrun _ (List.getLast_mem hne)
  have happart := hs.apart
  rw [← List.dropLast_concat_getLast hne, List.append_assoc, List.singleton_append] at happart
  obtain ⟨hblank, hbreak⟩ := not_space_at_break happart
  have hhead := hafter ch (by simp)
  rcases hp with hp | hp
  · rw [hp] at hlast hhead
    exact ⟨by simpa using hhead, hblank (by simpa using hlast)⟩
  · rw [hp] at hlast hhead
    exact ⟨hbreak hlast, hhead⟩

/-! ### The pieces of a text -/

/-- A text begins with the longest run of characters of a class. -/
theorem exists_run (p : Char → Bool) (s : List Char) :
    ∃ run after, s = run ++ after ∧ (∀ ch ∈ run, p ch = true) ∧
      ∀ ch ∈ after.head?, p ch = false := by
  refine ⟨s.takeWhile p, s.dropWhile p, List.takeWhile_append_dropWhile.symm,
    fun ch hch => List.mem_takeWhile_imp hch, ?_⟩
  intro ch hch
  have := List.head?_dropWhile_not p s
  rw [Option.mem_def.1 hch] at this
  simpa using this

namespace ReadsQuoted

variable {double : Bool} {next s rest : List Char}

/-- A line that was broken at a blank. -/
theorem fold (hnext : BeginsLine next) (h : ReadsQuoted double next s rest) :
    ReadsQuoted double (continuation ++ next) (' ' :: s) rest :=
  spaces (Or.inr (by decide)) (by simp; omega)
    (fun _ hc => quotedSpaces_continuation hnext hc) h

/-- A run of blanks. -/
theorem blanks {run : List Char} (hrun : ∀ ch ∈ run, ch = ' ') (hnext : BeginsLine next)
    (hend : next.head?.any (· ≠ '\x00') = true) (h : ReadsQuoted double next s rest) :
    ReadsQuoted double (run ++ next) (run ++ s) rest := by
  cases run with
  | nil => exact h
  | cons ch run =>
      refine spaces (Or.inl (hrun ch (by simp))) (by simp) ?_ h
      exact fun _ hc => quotedSpaces_blanks hrun hnext hend hc

/-- A run of line breaks. -/
theorem breaks {run : List Char} (hne : run ≠ []) (hrun : ∀ ch ∈ run, isKeptBreak ch = true)
    (hnext : BeginsLine next) (h : ReadsQuoted double next s rest) :
    ReadsQuoted double (writtenBreaks run ++ next) (readBreaks run ++ s) rest := by
  obtain ⟨first, more, rfl⟩ := List.exists_cons_of_ne_nil hne
  obtain ⟨begun, others, hwritten, hbegun⟩ : ∃ begun others,
      writtenBreaks (first :: more) = begun :: others ∧ isKeptBreak begun = true := by
    by_cases hfeed : first = '\n'
    · exact ⟨'\n', first :: more ++ [' ', ' '], by simp [writtenBreaks, hfeed], by decide⟩
    · exact ⟨first, more ++ [' ', ' '], by simp [writtenBreaks, hfeed], hrun first (by simp)⟩
  rw [hwritten, List.cons_append]
  refine spaces (Or.inr hbegun) (by simp) ?_ h
  intro c hc
  exact quotedSpaces_writtenBreaks hne hrun hnext (by rw [hc, hwritten, List.cons_append])

/-- A character that is no white space. -/
theorem singleChar {ch : Char} (hspecial : isSpecial ch = false) (hblank : ch ≠ ' ')
    (hbreak : isKeptBreak ch = false) (h : ReadsQuoted false next s rest) :
    ReadsQuoted false (Document.singleChar ch ++ next) (ch :: s) rest := by
  rw [Document.singleChar]
  split
  · rename_i hquote
    subst hquote
    exact doubledQuote h
  · rename_i hquote
    by_cases hmark : ch = '"' ∨ ch = '\\'
    · exact mark (Or.inr ⟨rfl, hmark⟩) h
    · refine char ?_ h
      rw [not_or] at hmark
      have hend := isBlankOrEnd_of_not_isSpecial hspecial
      simp only [hblank, decide_false, hbreak, Bool.or_self] at hend
      simp [isQuotedChar, hquote, hmark, hend]

end ReadsQuoted

/-- A run of blanks is written as it stands, or as the end of a line. -/
theorem foldedFrom_blanks {escape : Char → List Char} {run after : List Char}
    (hrun : ∀ ch ∈ run, decide (ch = ' ') = true)
    (hafter : ∀ ch ∈ after.head?, decide (ch = ' ') = false) (fuel : Nat) (inside : Bool)
    (column : Nat) :
    foldedFrom escape (fuel + 1) inside column (' ' :: (run ++ after)) =
      if run = [] ∧ foldColumn < column ∧ inside ∧ after ≠ [] then
        continuation ++ foldedFrom escape fuel true continuationColumn after
      else ' ' :: run ++ foldedFrom escape fuel true (column + 1 + run.length) after := by
  rw [foldedFrom, if_pos rfl]
  simp only [takeWhile_append_of_head hrun hafter, dropWhile_append_of_head hrun hafter]

/-- A run of line breaks and the beginning of the next line. -/
theorem foldedFrom_breaks {escape : Char → List Char} {ch : Char} {run after : List Char}
    (hch : isKeptBreak ch = true) (hrun : ∀ ch ∈ run, isKeptBreak ch = true)
    (hafter : ∀ ch ∈ after.head?, isKeptBreak ch = false) (fuel : Nat) (inside : Bool)
    (column : Nat) :
    foldedFrom escape (fuel + 1) inside column (ch :: (run ++ after)) =
      writtenBreaks (ch :: run) ++ foldedFrom escape fuel true continuationColumn after := by
  have hblank : ch ≠ ' ' := by
    rintro rfl
    exact absurd hch (by decide)
  rw [foldedFrom, if_neg hblank, if_pos hch]
  simp only [takeWhile_append_of_head hrun hafter, dropWhile_append_of_head hrun hafter]

/-- Any other character. -/
theorem foldedFrom_char {escape : Char → List Char} {ch : Char} (hblank : ch ≠ ' ')
    (hbreak : isKeptBreak ch = false) (fuel : Nat) (inside : Bool) (column : Nat)
    (s : List Char) :
    foldedFrom escape (fuel + 1) inside column (ch :: s) =
      escape ch ++ foldedFrom escape fuel true (column + (escape ch).length) s := by
  rw [foldedFrom, if_neg hblank, if_neg (by simp [hbreak])]

/-- Texts are made of pieces: runs of blanks, runs of line breaks, and other characters. -/
@[elab_as_elim]
theorem pieces_induction {motive : List Char → Prop} (nil : motive [])
    (blanks : ∀ {run after : List Char}, (∀ ch ∈ run, decide (ch = ' ') = true) →
      (∀ ch ∈ after.head?, decide (ch = ' ') = false) → motive after →
      motive (' ' :: (run ++ after)))
    (breaks : ∀ {ch : Char} {run after : List Char}, isKeptBreak ch = true →
      (∀ d ∈ run, isKeptBreak d = true) → (∀ d ∈ after.head?, isKeptBreak d = false) →
      motive after → motive (ch :: (run ++ after)))
    (char : ∀ {ch : Char} {after : List Char}, ch ≠ ' ' → isKeptBreak ch = false →
      motive after → motive (ch :: after))
    (s : List Char) : motive s := by
  -- by the length, as a run is taken at once
  suffices h : ∀ (n : Nat) (s : List Char), s.length ≤ n → motive s from h s.length s le_rfl
  intro n
  induction n with
  | zero =>
      intro s hs
      obtain rfl := List.length_eq_zero_iff.1 (Nat.le_zero.1 hs)
      exact nil
  | succ n ih =>
      intro s hs
      cases s with
      | nil => exact nil
      | cons ch s =>
          rw [List.length_cons] at hs
          by_cases hblank : ch = ' '
          · subst hblank
            obtain ⟨run, after, rfl, hrun, hafter⟩ := exists_run (fun ch => decide (ch = ' ')) s
            exact blanks hrun hafter (ih after (by rw [List.length_append] at hs; omega))
          · cases hbreak : isKeptBreak ch with
            | true =>
                obtain ⟨run, after, rfl, hrun, hafter⟩ := exists_run isKeptBreak s
                exact breaks hbreak hrun hafter (ih after (by rw [List.length_append] at hs; omega))
            | false => exact char hblank hbreak (ih s (by omega))

/-! ### Whole texts -/

/-- Texts that are read back from single quotes, wherever they are written, next-line characters
apart. -/
def ComesBack (rest s : List Char) : Prop :=
  ∀ (fuel : Nat), s.length < fuel → ∀ (inside : Bool) (column : Nat),
    ∃ s', ReadsQuoted false (foldedFrom singleChar fuel inside column s ++ '\'' :: rest) s' rest ∧
      ReadBack s s'

section Pieces

variable {rest run after : List Char} {ch : Char}

theorem ComesBack.blanks (hs : Foldable (' ' :: run ++ after))
    (hrun : ∀ ch ∈ run, decide (ch = ' ') = true)
    (hafter : ∀ ch ∈ after.head?, decide (ch = ' ') = false) (h : ComesBack rest after) :
    ComesBack rest (' ' :: (run ++ after)) := by
  intro fuel hfuel inside column
  obtain ⟨fuel, rfl⟩ : ∃ k, fuel = k + 1 := ⟨fuel - 1, by omega⟩
  have hlength : after.length < fuel := by simp at hfuel; omega
  have hhead := hs.after_run (by simp) (by simpa using hrun) hafter (Or.inl fun _ => rfl)
  -- whether the line ends at the run or not, what stands behind it begins anew
  have hbegins := fun inside column =>
    @beginsLine_foldedFrom after rest fuel hlength hs.of_append hhead inside column
  rw [foldedFrom_blanks hrun hafter]
  split
  · rename_i hfold
    obtain ⟨rfl, -⟩ := hfold
    obtain ⟨s', hread, hback⟩ := h fuel hlength true continuationColumn
    refine ⟨[' '] ++ s', ?_, (ReadBack.of_not_mem (s := [' ']) (by decide)).append hback⟩
    rw [List.append_assoc]
    exact hread.fold (hbegins _ _)
  · obtain ⟨s', hread, hback⟩ := h fuel hlength true (column + 1 + run.length)
    have hall : ∀ ch ∈ ' ' :: run, ch = ' ' := by simpa using hrun
    refine ⟨(' ' :: run) ++ s', ?_, ReadBack.append (s := ' ' :: run) ?_ hback⟩
    · rw [List.append_assoc]
      refine hread.blanks hall (hbegins _ _) ?_
      rw [head?_foldedFrom hlength hhead]
      cases after with
      | nil => decide
      | cons ch after => simpa using (ne_of_not_isSpecial (hs.plain ch (by simp))).2.2.1
    · exact .of_not_mem fun hmem => absurd (hall _ hmem) (by decide)

theorem ComesBack.breaks (hs : Foldable (ch :: run ++ after)) (hch : isKeptBreak ch = true)
    (hrun : ∀ d ∈ run, isKeptBreak d = true) (hafter : ∀ d ∈ after.head?, isKeptBreak d = false)
    (h : ComesBack rest after) : ComesBack rest (ch :: (run ++ after)) := by
  intro fuel hfuel inside column
  obtain ⟨fuel, rfl⟩ : ∃ k, fuel = k + 1 := ⟨fuel - 1, by omega⟩
  have hlength : after.length < fuel := by simp at hfuel; omega
  have hall : ∀ d ∈ ch :: run, isKeptBreak d = true := by simpa [hch] using hrun
  have hhead := hs.after_run (by simp) hall hafter (Or.inr fun _ => rfl)
  obtain ⟨s', hread, hback⟩ := h fuel hlength true continuationColumn
  refine ⟨readBreaks (ch :: run) ++ s', ?_,
    ReadBack.append (s := ch :: run) (readBack_readBreaks _) hback⟩
  rw [foldedFrom_breaks hch hrun hafter, List.append_assoc]
  exact hread.breaks (by simp) hall (beginsLine_foldedFrom hlength hs.of_append hhead _ _)

theorem ComesBack.char (hs : Foldable (ch :: after)) (hblank : ch ≠ ' ')
    (hbreak : isKeptBreak ch = false) (h : ComesBack rest after) :
    ComesBack rest (ch :: after) := by
  intro fuel hfuel inside column
  obtain ⟨fuel, rfl⟩ : ∃ k, fuel = k + 1 := ⟨fuel - 1, by omega⟩
  have hlost : ch ≠ '\u0085' := by
    rintro rfl
    exact absurd hbreak (by decide)
  obtain ⟨s', hread, hback⟩ :=
    h fuel (by simpa using hfuel) true (column + (singleChar ch).length)
  refine ⟨[ch] ++ s', ?_,
    ReadBack.append (s := [ch]) (.of_not_mem (by simpa using hlost.symm)) hback⟩
  rw [foldedFrom_char hblank hbreak, List.append_assoc]
  exact hread.singleChar (hs.plain ch (by simp)) hblank hbreak

end Pieces

/-- **A text in single quotes is read back**, next-line characters apart. -/
theorem Foldable.comesBack {rest : List Char} (hrest : ∀ ch ∈ rest.head?, ch ≠ '\'')
    {s : List Char} (hs : Foldable s) : ComesBack rest s := by
  induction s using pieces_induction with
  | nil =>
      intro fuel hfuel inside column
      obtain ⟨fuel, rfl⟩ : ∃ k, fuel = k + 1 := ⟨fuel - 1, by omega⟩
      exact ⟨[], @ReadsQuoted.close false _ hrest, .of_not_mem (by simp)⟩
  | @blanks run after hrun hafter ih =>
      exact .blanks hs hrun hafter (ih (@Foldable.of_append (' ' :: run) after hs))
  | @breaks ch run after hch hrun hafter ih =>
      exact .breaks hs hch hrun hafter (ih (@Foldable.of_append (ch :: run) after hs))
  | @char ch after hblank hbreak ih =>
      exact .char hs hblank hbreak (ih (@Foldable.of_append [ch] after hs))

end EntryTemplates.Document
