/-
**From the characters of an entry to its tokens.**

Outside flow collections the tokens are found step by step: white space is skipped, a key shows
itself by the colon behind it, and a value follows the colon.  Each step is described by one
equation, and the steps together by a relation that tells which tokens a run hands on.

Main definitions:

* `EntryTemplates.Document.BeginsToken` — what stands ahead is no white space;
* `EntryTemplates.Document.Scan.Hands` — a run hands on some tokens and comes to another state.

Main results:

* `EntryTemplates.Document.Scan.fetch_plain`, `fetch_value`, `fetch_quoted`, `fetch_end` — one
  step, by what stands ahead;
* `EntryTemplates.Document.Scan.hands_queue` — tokens that wait for nothing are handed on.
-/

import EntryTemplates.Document.Tokens
import EntryTemplates.Proofs.Document.DoubleQuoted
import EntryTemplates.Proofs.Document.PlainText

set_option relaxedAutoImplicit false
set_option autoImplicit false

namespace EntryTemplates.Document

open Cursor

/-! ### White space between tokens -/

/-- What stands ahead is neither white space nor a comment. -/
def BeginsToken (input : List Char) : Prop :=
  ∀ ch ∈ input.head?, ch ≠ ' ' ∧ ch ≠ '#' ∧ isBreak ch = false ∧ ch ≠ '\uFEFF'

theorem BeginsToken.peek {input : List Char} (h : BeginsToken input) {c : Cursor}
    (hc : c.rest = input) :
    c.peek ≠ '#' ∧ isBreak c.peek = false ∧ c.peek ≠ '\uFEFF' := by
  cases input with
  | nil =>
      rw [peek_of_nil hc]
      decide
  | cons ch input =>
      rw [peek_of_cons hc]
      exact (h ch (by simp)).2

theorem BeginsToken.span_blanks {input : List Char} (h : BeginsToken input) {c : Cursor}
    (hc : c.rest = input) : c.span (fun ch => decide (ch = ' ')) = ([], c) := by
  refine span_of_head ?_
  rw [hc]
  intro ch hch
  simpa using (h ch hch).1

namespace Scan

/-- A token ahead: nothing is skipped. -/
theorem skipSpace_of_token {s : Scan} {input : List Char} (hinput : BeginsToken input)
    (hs : s.cursor.rest = input) (fuel : Nat) : skipSpace fuel s = s := by
  cases fuel with
  | zero => rfl
  | succ fuel =>
      obtain ⟨hcomment, hbreak, -⟩ := hinput.peek hs
      have hblanks : s.cursor.skipBlanks.skipComment = s.cursor := by
        rw [skipBlanks, skipWhile, hinput.span_blanks hs, skipComment, if_neg hcomment]
      rw [skipSpace, hblanks, hbreak]
      rfl

theorem toNextToken_of_token {s : Scan} {input : List Char} (hinput : BeginsToken input)
    (hs : s.cursor.rest = input) : s.toNextToken = s := by
  have hmark : ¬ (s.cursor.index = 0 ∧ s.cursor.peek = '\uFEFF') := fun h =>
    (hinput.peek hs).2.2 h.2
  simp only [toNextToken, if_neg hmark]
  exact skipSpace_of_token hinput hs _

/-- A blank before a token. -/
theorem toNextToken_of_blank {s : Scan} {input : List Char} (hinput : BeginsToken input)
    (hs : s.cursor.rest = ' ' :: input) :
    s.toNextToken = { s with cursor := s.cursor.step } := by
  have hstep : s.cursor.step.rest = input := rest_step_of_cons hs
  obtain ⟨hcomment, hbreak, -⟩ := hinput.peek hstep
  have hmark : ¬ (s.cursor.index = 0 ∧ s.cursor.peek = '\uFEFF') := by
    rw [peek_of_cons hs]
    simp
  have hblanks : s.cursor.skipBlanks.skipComment = s.cursor.step := by
    rw [skipBlanks, skipWhile, span_cons hs (by simp), hinput.span_blanks hstep, skipComment,
      if_neg hcomment]
  simp only [toNextToken, if_neg hmark]
  rw [skipSpace, hblanks, hbreak]
  rfl

/-- The end of a line before a token: a key may begin now. -/
theorem toNextToken_of_lineFeed {s : Scan} {input : List Char} (hinput : BeginsToken input)
    (hlevel : s.level = 0) (hs : s.cursor.rest = '\n' :: input) :
    s.toNextToken = { s with cursor := s.cursor.step, keyAllowed := true } := by
  have hstep : s.cursor.step.rest = input := rest_step_of_cons hs
  have hmark : ¬ (s.cursor.index = 0 ∧ s.cursor.peek = '\uFEFF') := by
    rw [peek_of_cons hs]
    simp
  have hspan : s.cursor.span (fun ch => decide (ch = ' ')) = ([], s.cursor) :=
    span_of_head (by simp [hs])
  have hblanks : s.cursor.skipBlanks.skipComment = s.cursor := by
    rw [skipBlanks, skipWhile, hspan, skipComment, if_neg (by rw [peek_of_cons hs]; decide)]
  have hbreak : isBreak '\n' = true := by decide
  simp only [toNextToken, if_neg hmark]
  rw [skipSpace]
  simp only [hblanks, peek_of_cons hs, hbreak, if_true, lineBreak_of_lineFeed hs, hlevel,
    decide_true, Bool.or_true]
  exact skipSpace_of_token hinput hstep _

/-! ### Pending keys and indentation -/

theorem dropStale_of_nil {s : Scan} (h : s.keys = []) : s.dropStale = .ok s := by
  obtain ⟨cursor, level, taken, queue, indent, outer, keyAllowed, keys, done⟩ := s
  obtain rfl : keys = [] := h
  rfl

/-- A key that was found on this line and not too far back stays. -/
theorem dropStale_of_near {s : Scan} {k : PendingKey} (h : s.keys = [k])
    (hline : k.line = s.cursor.line) (hindex : s.cursor.index ≤ k.index + 1024) :
    s.dropStale = .ok s := by
  have hstale : s.isStale k = false := by
    have : ¬ 1024 < s.cursor.index - k.index := by omega
    simp [isStale, hline, this]
  obtain ⟨cursor, level, taken, queue, indent, outer, keyAllowed, keys, done⟩ := s
  obtain rfl : keys = [k] := h
  simp [dropStale, hstale]

/-- Where the indentation is no less, no block ends. -/
theorem unwind_of_le {s : Scan} {column : Nat} (h : s.indent ≤ column) :
    s.unwind column = s := by
  have hleave : leave column s.outer s.indent [] = (s.indent, s.outer, []) := by
    cases s.outer with
    | nil => rfl
    | cons outer rest => rw [leave, if_neg (by omega)]
  rw [unwind]
  split
  · rfl
  · simp [hleave]

/-! ### Single steps -/

/-- Before the next token of `s` stands `s'`, with nothing left to be skipped, dropped or closed. -/
structure Settled (s s' : Scan) : Prop where
  next : s.toNextToken = s'
  stale : s'.dropStale = .ok s'
  indent : s'.indent ≤ s'.cursor.column

/-- **A plain scalar.** -/
theorem fetch_plain {s s' : Scan} (h : Settled s s') {ch : Char} {after : List Char}
    (hrest : s'.cursor.rest = ch :: after) (hblank : isBlankOrEnd ch = false)
    (hindicator : ch ∉ "#,[]\x7b\x7d&*!|>'\"%@\x60".toList)
    (hmark : ch = '?' ∨ ch = ':' ∨ ch = '-' → isBlankOrEnd (s'.cursor.peekAt 1) = false)
    (hcolumn : ch = '-' ∨ ch = '.' → s'.cursor.column ≠ 0) (hflow : s'.inFlow = false) :
    s.fetch = s'.fetchPlain := by
  have hend : ch ≠ '\x00' := by
    rintro rfl
    exact absurd hblank (by decide)
  have hplain : s'.atPlain = true := by
    have hlist : ch ∈ "-?:,[]\x7b\x7d#&*!|>'\"%@\x60".toList →
        ch = '?' ∨ ch = ':' ∨ ch = '-' := by
      intro hmem
      simp at hmem hindicator
      grind
    by_cases hspecial : ch = '?' ∨ ch = ':' ∨ ch = '-'
    · have hnext := hmark hspecial
      rcases hspecial with rfl | rfl | rfl <;> simp [atPlain, peek_of_cons hrest, hnext, hflow]
    · have hother := fun hmem => hspecial (hlist hmem)
      simp only [atPlain, peek_of_cons hrest, hblank, decide_eq_false hother]
      simp
  have hdash : ¬ (ch = '-' ∧ s'.cursor.column = 0 ∧ s'.cursor.atSeparator = true) := fun h =>
    hcolumn (Or.inl h.1) h.2.1
  have hdot : ¬ (ch = '.' ∧ s'.cursor.column = 0 ∧ s'.cursor.atSeparator = true) := fun h =>
    hcolumn (Or.inr h.1) h.2.1
  have hentry : ¬ (ch = '-' ∧ isBlankOrEnd (s'.cursor.peekAt 1) = true) := by
    rintro ⟨rfl, hnext⟩
    simp [hmark] at hnext
  have hkey : ¬ (ch = '?' ∧ isBlankOrEnd (s'.cursor.peekAt 1) = true) := by
    rintro ⟨rfl, hnext⟩
    simp [hmark] at hnext
  have hvalue : ¬ (ch = ':' ∧ isBlankOrEnd (s'.cursor.peekAt 1) = true) := by
    rintro ⟨rfl, hnext⟩
    simp [hmark] at hnext
  simp at hindicator
  rw [fetch, h.next, h.stale]
  simp only [bind, Except.bind, unwind_of_le h.indent, peek_of_cons hrest, hplain, hflow,
    Bool.false_or, if_neg hend, if_neg hdash, if_neg hdot, if_neg hentry, if_neg hkey,
    if_neg hvalue, hindicator]
  simp

/-- **The colon between a key and its value.** -/
theorem fetch_value {s s' : Scan} (h : Settled s s') {after : List Char}
    (hrest : s'.cursor.rest = ':' :: ' ' :: after) : s.fetch = s'.fetchValue := by
  have hnext : isBlankOrEnd (s'.cursor.peekAt 1) = true := by
    simp [peekAt, hrest, isBlankOrEnd, isSpaceOrEnd]
  rw [fetch, h.next, h.stale]
  simp [bind, Except.bind, unwind_of_le h.indent, peek_of_cons hrest, hnext]

/-- **A scalar in quotes.** -/
theorem fetch_quoted {s s' : Scan} (h : Settled s s') {double : Bool} {after : List Char}
    (hrest : s'.cursor.rest = closingQuote double :: after) :
    s.fetch = s'.fetchKeyLike (readQuoted double) := by
  rw [fetch, h.next, h.stale]
  cases double <;>
    simp [bind, Except.bind, unwind_of_le h.indent, peek_of_cons hrest, closingQuote]

/-- **The end of the text.** -/
theorem fetch_end {s s' : Scan} (h : Settled s s') (hrest : s'.cursor.rest = []) :
    s.fetch = s'.fetchEnd := by
  rw [fetch, h.next, h.stale]
  simp [bind, Except.bind, unwind_of_le h.indent, peek_of_nil hrest]

/-! ### Runs -/

section

-- otherwise a step is computed on the way, as far as the text ahead is known
attribute [local irreducible] fetch

/-- One round of a run. -/
theorem run_succ (fuel : Nat) (s : Scan) (taken : List Token) :
    run fetch (fuel + 1) s taken =
      if s.done then ⟨taken.reverse ++ s.queue, .malformed .grammar⟩
      else
        match s.queue with
        | [] =>
            match s.fetch with
            | .ok s => run fetch fuel s taken
            | .error e => ⟨taken.reverse, e⟩
        | t :: queue =>
            match s.dropStale with
            | .error e => ⟨taken.reverse, e⟩
            | .ok s =>
                if s.isWaiting then
                  match s.fetch with
                  | .ok s => run fetch fuel s taken
                  | .error e => ⟨taken.reverse, e⟩
                else run fetch fuel { s with queue := queue, taken := s.taken + 1 } (t :: taken) := rfl

end

/-- **A run hands on the tokens `ts` and comes to the state `s'`**, with at most `n` steps. -/
def Hands (n : Nat) (s : Scan) (ts : List Token) (s' : Scan) : Prop :=
  ∃ k ≤ n, ∀ fuel taken, run fetch (fuel + k) s taken = run fetch fuel s' (ts.reverse ++ taken)

theorem Hands.trans {m n : Nat} {s s' s'' : Scan} {ts us : List Token} (h : Hands m s ts s')
    (h' : Hands n s' us s'') : Hands (m + n) s (ts ++ us) s'' := by
  obtain ⟨k, hk, hrun⟩ := h
  obtain ⟨k', hk', hrun'⟩ := h'
  refine ⟨k' + k, by omega, ?_⟩
  intro fuel taken
  rw [← Nat.add_assoc, hrun, hrun', List.reverse_append, List.append_assoc]

/-- A step is made if there is nothing to be handed on. -/
theorem hands_fetch {s s' : Scan} (hqueue : s.queue = []) (hdone : s.done = false)
    (hfetch : s.fetch = .ok s') : Hands 1 s [] s' := by
  refine ⟨1, by omega, ?_⟩
  intro fuel taken
  rw [run_succ, hdone, hqueue, hfetch]
  simp

/-- A step is made if the first token may still turn out a key. -/
theorem hands_waiting {s s' : Scan} {t : Token} {queue : List Token} (hqueue : s.queue = t :: queue)
    (hdone : s.done = false) (hstale : s.dropStale = .ok s) (hwaiting : s.isWaiting = true)
    (hfetch : s.fetch = .ok s') : Hands 1 s [] s' := by
  refine ⟨1, by omega, ?_⟩
  intro fuel taken
  rw [run_succ, hdone, hqueue]
  simp [hstale, hwaiting, hfetch]

/-- **Tokens that wait for nothing are handed on.** -/
theorem hands_queue {ts : List Token} {s : Scan} (hqueue : s.queue = ts) (hkeys : s.keys = [])
    (hdone : s.done = false) :
    Hands ts.length s ts { s with queue := [], taken := s.taken + ts.length } := by
  induction ts generalizing s with
  | nil =>
      refine ⟨0, by omega, fun fuel taken => ?_⟩
      obtain ⟨cursor, level, n, queue, indent, outer, keyAllowed, keys, done⟩ := s
      obtain rfl : queue = [] := hqueue
      rfl
  | cons t ts ih =>
      have hfirst : Hands 1 s [t] { s with queue := ts, taken := s.taken + 1 } := by
        refine ⟨1, by omega, fun fuel taken => ?_⟩
        have hwaiting : s.isWaiting = false := by simp [isWaiting, hkeys]
        rw [run_succ, hdone, hqueue]
        simp [dropStale_of_nil hkeys, hwaiting, hdone]
      have hrest := ih (s := { s with queue := ts, taken := s.taken + 1 }) rfl hkeys hdone
      have h := hfirst.trans hrest
      rw [Nat.add_comm] at h
      simpa [Nat.add_assoc, Nat.add_comm 1] using h

end Scan

end EntryTemplates.Document
