/-
**Texts in double quotes are read back.**

Between double quotes every character may be written, some of them only by a name or by a code after
a backslash.  A long line ends with a backslash, and the next one begins with another one if its
first character is a blank, so that the blanks at the beginning of a continued line are not lost.

Main definitions:

* `EntryTemplates.Document.ReadsOn` — texts that are read back from wherever they are written;
* `EntryTemplates.Document.ReadsNext` — texts that are read back at the beginning of a line.

Main results:

* `EntryTemplates.Document.ReadsQuoted.doubleEscape` — a character that is escaped;
* `EntryTemplates.Document.ReadsQuoted.lineEnd` — the end of a line;
* `EntryTemplates.Document.readsQuoted_doubleQuoted` — **a text in double quotes is read back**.
-/

import EntryTemplates.Proofs.Document.Codes
import EntryTemplates.Proofs.Document.SingleQuoted

set_option relaxedAutoImplicit false
set_option autoImplicit false

namespace EntryTemplates.Document

open Cursor

/-! ### Escapes -/

/-- A letter after a backslash is read as the character that it names. -/
theorem escaped?_of_escapeLetter? {ch letter : Char} (h : escapeLetter? ch = some letter) :
    escaped? letter = some ch := by
  unfold escapeLetter? at h
  split at h
  all_goals
    first
      | (obtain rfl := Option.some.inj h; rfl)
      | exact absurd h (by simp)

/-- The code of a character is read as that character. -/
theorem readEscape_code (width : Nat) {letter ch : Char} {next : List Char}
    (hletter : escaped? letter = none) (hwidth : codeLength? letter = some width)
    (hpos : 0 < width) (hch : ch.toNat < 16 ^ width) {c : Cursor}
    (hc : c.rest = letter :: (upperHex width ch.toNat ++ next)) :
    ∃ c' : Cursor, readEscape c = .ok ([.char ch], c') ∧ c'.rest = next := by
  have hstep : c.step.rest = upperHex width ch.toNat ++ next := rest_step_of_cons hc
  have hlength : (upperHex width ch.toNat).length = width := length_upperHex hpos hch
  have htake : c.step.rest.take width = upperHex width ch.toNat := by
    rw [hstep, List.take_left' hlength]
  have hcode : ¬ 0x80000000 ≤ ch.toNat ∧ ¬ 0x110000 ≤ ch.toNat := by
    have := toNat_lt ch
    omega
  refine ⟨c.step.forward width, ?_, ?_⟩
  · rw [readEscape, peek_of_cons hc]
    simp only [hletter, hwidth, htake, hlength, all_isHexDigit_upperHex, hexValue_upperHex,
      hcode.1, hcode.2, ofCode_toNat]
    simp
  · rw [rest_forward, hstep, List.drop_left' hlength]

namespace ReadsQuoted

variable {next s rest : List Char}

/-- **A character that is escaped.** -/
theorem doubleEscape (ch : Char) (h : ReadsQuoted true next s rest) :
    ReadsQuoted true (Document.doubleEscape ch ++ next) (ch :: s) rest := by
  rw [Document.doubleEscape]
  split
  · rename_i letter hletter
    refine escape [ch] (by simp) ?_ h
    intro c hc
    refine ⟨c.step, ?_, rest_step_of_cons hc⟩
    rw [readEscape, peek_of_cons hc]
    simp only [escaped?_of_escapeLetter? hletter]
    rfl
  · dsimp only
    split
    · refine escape [ch] (by simp; omega) (fun c hc => ?_) h
      exact readEscape_code 2 rfl rfl (by decide) (by omega) hc
    · split
      · refine escape [ch] (by simp; omega) (fun c hc => ?_) h
        exact readEscape_code 4 rfl rfl (by decide) (by omega) hc
      · refine escape [ch] (by simp; omega) (fun c hc => ?_) h
        have := toNat_lt ch
        exact readEscape_code 8 rfl rfl (by decide) (by omega) hc

/-- **The end of a line** is read as nothing. -/
theorem lineEnd (hnext : BeginsLine next) (h : ReadsQuoted true next s rest) :
    ReadsQuoted true ('\\' :: (continuation ++ next)) s rest := by
  refine escape [] (by simp) ?_ h
  intro c hc
  have hc : c.rest = '\n' :: ' ' :: ' ' :: next := hc
  have hstep : c.step.rest = ' ' :: ' ' :: next := rest_step_of_cons hc
  obtain ⟨c', hread, hc'⟩ := quotedBreaks_continuation hnext hstep
    (Nat.succ_pos c.step.rest.length)
  refine ⟨c', ?_, hc'⟩
  have hname : escaped? '\n' = none := rfl
  have hlength : codeLength? '\n' = none := rfl
  rw [readEscape, peek_of_cons hc]
  simp only [hname, hlength, lineBreak_of_lineFeed hc, hread]
  simp [isBreak, Except.map]

/-- A blank at the beginning of a continued line. -/
theorem markedBlank (h : ReadsQuoted true next s rest) :
    ReadsQuoted true ('\\' :: ' ' :: next) (' ' :: s) rest := by
  refine escape [' '] (by simp) ?_ h
  intro c hc
  refine ⟨c.step, ?_, rest_step_of_cons hc⟩
  rw [readEscape, peek_of_cons hc]
  rfl

/-- A character that stands for itself. -/
theorem itself {ch : Char} (hch : standsForItself ch = true) (hblank : ch ≠ ' ')
    (h : ReadsQuoted true next s rest) : ReadsQuoted true (ch :: next) (ch :: s) rest := by
  by_cases hquote : ch = '\''
  · exact mark (Or.inl ⟨rfl, hquote⟩) h
  · refine char ?_ h
    have hne : ch ≠ '\t' ∧ ch ≠ '\r' ∧ ch ≠ '\x00' := by
      refine ⟨?_, ?_, ?_⟩ <;> (rintro rfl; exact absurd hch (by decide))
    simp only [standsForItself, Bool.and_eq_true, Bool.not_eq_true', Bool.or_eq_false_iff,
      decide_eq_false_iff_not, isKeptBreak] at hch
    simp [isQuotedChar, isBlankOrEnd, isSpaceOrEnd, isBreakOrEnd, isBreak, hquote, hblank, hne, hch]

end ReadsQuoted

/-! ### Whole texts -/

theorem not_isBreak_of_standsForItself {ch : Char} (h : standsForItself ch = true) :
    isBreak ch = false ∧ ch ≠ '\t' := by
  have hne : ch ≠ '\t' ∧ ch ≠ '\r' := by
    refine ⟨?_, ?_⟩ <;> (rintro rfl; exact absurd h (by decide))
  simp only [standsForItself, Bool.and_eq_true, Bool.not_eq_true', Bool.or_eq_false_iff,
    decide_eq_false_iff_not, isKeptBreak] at h
  simp [isBreak, hne, h]

/-- What is escaped begins with a backslash. -/
theorem exists_doubleEscape_eq (ch : Char) : ∃ code, doubleEscape ch = '\\' :: code := by
  rw [doubleEscape]
  split
  · exact ⟨_, rfl⟩
  · dsimp only
    split
    · exact ⟨_, rfl⟩
    · split <;> exact ⟨_, rfl⟩

/-- At the beginning of a line no line ends. -/
theorem doubleQuoted_itself {ch : Char} (hch : standsForItself ch = true) {column : Nat}
    (hcolumn : ¬ foldColumn < column) (inside mayFold : Bool) (s : List Char) :
    doubleQuoted inside mayFold column (ch :: s) =
      ch :: doubleQuoted true false (column + 1) s := by
  rw [doubleQuoted, if_pos hch, if_neg (by simp [hcolumn])]

/-- A text that begins with no blank begins a line. -/
theorem beginsLine_doubleQuoted {ch : Char} (hblank : ch ≠ ' ') {column : Nat}
    (hcolumn : ¬ foldColumn < column) (inside mayFold : Bool) (s next : List Char) :
    BeginsLine (doubleQuoted inside mayFold column (ch :: s) ++ next) := by
  cases hch : standsForItself ch with
  | true =>
      obtain ⟨hbreak, htab⟩ := not_isBreak_of_standsForItself hch
      rw [doubleQuoted_itself hch hcolumn]
      exact beginsLine_cons hblank htab hbreak
  | false =>
      obtain ⟨code, hcode⟩ := exists_doubleEscape_eq ch
      rw [doubleQuoted, if_neg (by simp [hch])]
      simp only [hcode]
      split <;> exact beginsLine_cons (by decide) (by decide) (by decide)

/-- Texts that are read back behind a run of blanks, which is read at once, from wherever they are
written. -/
def ReadsOn (rest s : List Char) : Prop :=
  ∀ (inside mayFold : Bool) (column : Nat) {blanks : List Char}, (∀ ch ∈ blanks, ch = ' ') →
    ReadsQuoted true (blanks ++ (doubleQuoted inside mayFold column s ++ '"' :: rest)) (blanks ++ s)
      rest

/-- Texts that are read back as the beginning of a continued line. -/
def ReadsNext (rest s : List Char) : Prop :=
  ∀ mayFold : Bool, ReadsQuoted true
    ((doubleFold s).1 ++ (doubleQuoted true mayFold (doubleFold s).2 s ++ '"' :: rest)) s rest

section Pieces

variable {rest s next blanks : List Char} {ch : Char}

/-- What begins with a backslash ends a run of blanks. -/
theorem ReadsQuoted.behind_blanks (h : ReadsQuoted true ('\\' :: next) s rest)
    (hblanks : ∀ ch ∈ blanks, ch = ' ') :
    ReadsQuoted true (blanks ++ '\\' :: next) (blanks ++ s) rest :=
  h.blanks hblanks (beginsLine_cons (by decide) (by decide) (by decide)) (by simp)

theorem doubleFold_of_ne (hblank : ch ≠ ' ') :
    doubleFold (ch :: s) = ('\\' :: continuation, continuationColumn) := by
  simp [doubleFold, hblank]

/-- Every end of a line begins with a backslash, and leaves the column from which no line ends. -/
theorem doubleFold_eq (s : List Char) :
    ∃ ending, (doubleFold s).1 = '\\' :: ending ∧ ¬ foldColumn < (doubleFold s).2 := by
  rw [doubleFold]
  split
  · exact ⟨_, rfl, by decide⟩
  · exact ⟨_, rfl, by decide⟩

/-- A character that stands for itself, within a line. -/
theorem ReadsOn.itself_within (h : ReadsOn rest s) (hch : standsForItself ch = true) (column : Nat)
    (hblanks : ∀ ch ∈ blanks, ch = ' ') :
    ReadsQuoted true (blanks ++ ch :: (doubleQuoted true false column s ++ '"' :: rest))
      (blanks ++ ch :: s) rest := by
  by_cases hblank : ch = ' '
  · subst hblank
    have hmore : ∀ ch ∈ blanks ++ [' '], ch = ' ' :=
      List.forall_mem_append.2 ⟨hblanks, by simp⟩
    simpa using h true false column hmore
  · obtain ⟨hbreak, htab⟩ := not_isBreak_of_standsForItself hch
    have hend : ch ≠ '\x00' := by
      rintro rfl
      exact absurd hch (by decide)
    have hs : ReadsQuoted true (doubleQuoted true false column s ++ '"' :: rest) s rest :=
      h true false column (List.forall_mem_nil _)
    exact (hs.itself hch hblank).blanks hblanks (beginsLine_cons hblank htab hbreak)
      (by simpa using hend)

/-- Such a character at the beginning of a line: a blank is marked. -/
theorem ReadsOn.itself_next (h : ReadsOn rest s) (hch : standsForItself ch = true) :
    ReadsNext rest (ch :: s) := by
  intro mayFold
  obtain ⟨-, -, hcolumn⟩ := doubleFold_eq (ch :: s)
  rw [doubleQuoted_itself hch hcolumn]
  by_cases hblank : ch = ' '
  · subst hblank
    have hs : ReadsQuoted true
        (doubleQuoted true false (continuationColumn + 1 + 1) s ++ '"' :: rest) s rest :=
      h true false _ (List.forall_mem_nil _)
    exact hs.markedBlank.lineEnd (beginsLine_cons (by decide) (by decide) (by decide))
  · obtain ⟨hbreak, htab⟩ := not_isBreak_of_standsForItself hch
    rw [doubleFold_of_ne hblank]
    exact (h.itself_within hch _ (List.forall_mem_nil _)).lineEnd
      (beginsLine_cons hblank htab hbreak)

theorem ReadsOn.itself (h : ReadsOn rest s) (hch : standsForItself ch = true) :
    ReadsOn rest (ch :: s) := by
  intro inside mayFold column blanks hblanks
  rw [doubleQuoted, if_pos hch]
  split
  · -- the line ends before the character
    have hnext := h.itself_next hch false
    obtain ⟨ending, hending, hcolumn⟩ := doubleFold_eq (ch :: s)
    rw [doubleQuoted_itself hch hcolumn, hending] at hnext
    simpa [hending] using hnext.behind_blanks hblanks
  · exact h.itself_within hch _ hblanks

/-- A character that is escaped; the line may end after it. -/
theorem ReadsOn.escaped (h : ReadsOn rest s) (hnext : s ≠ [] → ReadsNext rest s)
    (hch : standsForItself ch = false) : ReadsOn rest (ch :: s) := by
  intro inside mayFold column blanks hblanks
  obtain ⟨code, hcode⟩ := exists_doubleEscape_eq ch
  rw [doubleQuoted, if_neg (by simp [hch])]
  dsimp only
  split
  · rename_i hfold
    have hmore := (hnext hfold.2.1 true).doubleEscape ch
    rw [hcode] at hmore ⊢
    simpa using hmore.behind_blanks hblanks
  · have hs : ReadsQuoted true
        (doubleQuoted true true (column + (doubleEscape ch).length) s ++ '"' :: rest) s rest :=
      h true true _ (List.forall_mem_nil _)
    have hmore := hs.doubleEscape ch
    rw [hcode] at hmore ⊢
    simpa using hmore.behind_blanks hblanks

theorem ReadsOn.escaped_next (h : ReadsOn rest (ch :: s)) (hch : standsForItself ch = false) :
    ReadsNext rest (ch :: s) := by
  intro mayFold
  have hblank : ch ≠ ' ' := by
    rintro rfl
    exact absurd hch (by decide)
  have hs : ReadsQuoted true
      (doubleQuoted true mayFold continuationColumn (ch :: s) ++ '"' :: rest) (ch :: s) rest :=
    h true mayFold _ (List.forall_mem_nil _)
  rw [doubleFold_of_ne hblank]
  exact hs.lineEnd (beginsLine_doubleQuoted hblank (by decide) true mayFold s _)

end Pieces

/-- **A text in double quotes is read back.** -/
theorem readsQuoted_doubleQuoted {rest : List Char} (hrest : ∀ ch ∈ rest.head?, ch ≠ '\'')
    (inside mayFold : Bool) (column : Nat) (s : List Char) :
    ReadsQuoted true (doubleQuoted inside mayFold column s ++ '"' :: rest) s rest := by
  -- where a line ends, the rest begins the next one
  suffices h : ReadsOn rest s ∧ (s ≠ [] → ReadsNext rest s) from
    h.1 inside mayFold column (List.forall_mem_nil _)
  induction s with
  | nil =>
      refine ⟨fun inside mayFold column blanks hblanks => ?_, fun h => absurd rfl h⟩
      rw [doubleQuoted]
      exact (@ReadsQuoted.close true _ hrest).blanks hblanks
        (beginsLine_cons (by decide) (by decide) (by decide)) (by simp)
  | cons ch s ih =>
      obtain ⟨hon, hnext⟩ := ih
      cases hch : standsForItself ch with
      | true => exact ⟨hon.itself hch, fun _ => hon.itself_next hch⟩
      | false =>
          have hmore := hon.escaped hnext hch
          exact ⟨hmore, fun _ => hmore.escaped_next hch⟩

end EntryTemplates.Document
