/-
**Brackets and the words they make.**

The brackets of a text outside its comments and literals are a word over six letters.  Words in
which brackets nest are generated by a grammar, which says nothing of open brackets or lines.  The
scan of a text keeps a stack of open brackets instead; it decides the grammar, because after each
prefix that some word completes its stack holds the brackets that are left open.

* `Source.Balanced` — the grammar;
* `Source.word` — the brackets of a text;
* `Source.Extendable`, `Source.FirstUnfit` — words that can be completed, and the bracket from which
  on a word cannot;
* `Source.IsMatched`, `Source.LastOpen` — brackets that are closed, and the last one that is not;
* `Source.Leaves` — a word that leaves some brackets open;
* `Source.pairLine_eq_ok` — **the stack of the scan holds the brackets left open**;
* `Source.imbalance?_decides` — **the scan decides the grammar, and reports the right bracket**.
-/

import EntryTemplates.Source.Brackets
import Mathlib.Data.List.Induction
import Mathlib.Tactic.Common

set_option relaxedAutoImplicit false
set_option autoImplicit false

namespace EntryTemplates.Source

open EntryTemplates.Text

/-! ### Words of brackets -/

/-- Whether a character is a bracket. -/
def isBracket (c : Char) : Bool := isOpening c || (opening? c).isSome

/-- The brackets of a text outside its comments and literals, in their order. -/
def word (content : List Char) : List Char := (strip content).filter isBracket

/-- Words in which brackets nest: the empty one, two such words in a row, and such a word between a
bracket and its partner. -/
inductive Balanced : List Char → Prop where
  | nil : Balanced []
  | append {u v : List Char} (hu : Balanced u) (hv : Balanced v) : Balanced (u ++ v)
  | wrap {o c : Char} {u : List Char} (hpair : opening? c = some o) (hu : Balanced u) :
      Balanced (o :: u ++ [c])

/-- A word that can be completed. -/
def Extendable (u : List Char) : Prop := ∃ v, Balanced (u ++ v)

/-- What comes before the bracket `c` can be completed, and together with it no more.  As every
beginning of a word that can be completed can be so, there is no other such bracket. -/
def FirstUnfit (w : List Char) (c : Char) : Prop :=
  ∃ u v, w = u ++ c :: v ∧ Extendable u ∧ ¬ Extendable (u ++ [c])

/-- The bracket `o` is closed by what follows it. -/
def IsMatched (o : Char) (after : List Char) : Prop :=
  ∃ inner c rest, after = inner ++ c :: rest ∧ Balanced inner ∧ opening? c = some o

/-- The bracket `o` is left open in a word, and all that are opened after it are closed. -/
def LastOpen (w : List Char) (o : Char) : Prop :=
  ∃ u v, w = u ++ o :: v ∧ isOpening o = true ∧ ¬ IsMatched o v ∧
    ∀ x o' y, v = x ++ o' :: y → isOpening o' = true → IsMatched o' y

theorem isOpening_of_pair {o c : Char} (h : opening? c = some o) :
    isOpening o = true ∧ isOpening c = false := by
  rw [opening?] at h
  split at h
  · rename_i hc
    obtain rfl := Option.some.inj h
    exact ⟨rfl, by rw [hc]; rfl⟩
  · split at h
    · rename_i hc
      obtain rfl := Option.some.inj h
      exact ⟨rfl, by rw [hc]; rfl⟩
    · split at h
      · rename_i hc
        obtain rfl := Option.some.inj h
        exact ⟨rfl, by rw [hc]; rfl⟩
      · exact absurd h (by simp)

/-- An opening bracket has a partner. -/
theorem exists_pair {o : Char} (h : isOpening o = true) : ∃ c, opening? c = some o := by
  simp only [isOpening, Bool.or_eq_true, decide_eq_true_eq] at h
  obtain (rfl | rfl) | rfl := h
  · exact ⟨')', rfl⟩
  · exact ⟨']', rfl⟩
  · exact ⟨'\x7d', rfl⟩

/-! ### Brackets that are closed -/

theorem IsMatched.append {o : Char} {after : List Char} (h : IsMatched o after) (more : List Char) :
    IsMatched o (after ++ more) := by
  obtain ⟨inner, c, rest, rfl, hinner, hpair⟩ := h
  exact ⟨inner, c, rest ++ more, by simp, hinner, hpair⟩

/-- **In a word in which brackets nest every bracket is closed.** -/
theorem Balanced.isMatched {w : List Char} (h : Balanced w) {x y : List Char} {o : Char}
    (hw : w = x ++ o :: y) (ho : isOpening o = true) : IsMatched o y := by
  induction h generalizing x y with
  | nil => exact absurd hw (by simp)
  | @append u v hu hv ihu ihv =>
      rcases List.append_eq_append_iff.1 hw with ⟨a, hx, hv'⟩ | ⟨a, hu', hy⟩
      · exact ihv hv'
      · cases a with
        | nil => exact ihv (x := []) hy.symm
        | cons d a =>
            obtain ⟨rfl, rfl⟩ := List.cons.inj hy
            exact (ihu hu').append v
  | @wrap o' c u hpair hu ih =>
      cases x with
      | nil =>
          obtain ⟨rfl, rfl⟩ := List.cons.inj hw
          exact ⟨u, c, [], rfl, hu, hpair⟩
      | cons d x =>
          rw [List.cons_append, List.cons_append, List.cons.injEq] at hw
          rcases List.append_eq_append_iff.1 hw.2 with ⟨a, hx, hc⟩ | ⟨a, hu', hy⟩
          · -- the last bracket closes, and so is not the one in question
            cases a with
            | nil =>
                obtain ⟨rfl, -⟩ := List.cons.inj hc
                exact absurd ho (by simp [(isOpening_of_pair hpair).2])
            | cons e a => exact absurd hc (by simp)
          · cases a with
            | nil =>
                obtain ⟨rfl, -⟩ := List.cons.inj hy
                exact absurd ho (by simp [(isOpening_of_pair hpair).2])
            | cons e a =>
                obtain ⟨rfl, rfl⟩ := List.cons.inj hy
                exact (ih hu').append [c]

/-! ### Stacks of open brackets -/

section Line

variable {n : Nat} {stack stack' : List Char}

theorem pairChar_opening {o : Char} (h : isOpening o = true) :
    pairChar n stack o = .ok (o :: stack) := by
  rw [pairChar, if_pos h]

theorem pairChar_pair {o c : Char} (h : opening? c = some o) :
    pairChar n (o :: stack) c = .ok stack := by
  rw [pairChar, if_neg (by simp [(isOpening_of_pair h).2]), h]
  simp

theorem pairChar_other {c : Char} (h : isBracket c = false) :
    pairChar n stack c = .ok stack := by
  obtain ⟨hopening, hclosing⟩ := Bool.or_eq_false_iff.1 h
  rw [pairChar, if_neg (by simp [hopening])]
  rw [Option.isSome_eq_false_iff, Option.isNone_iff_eq_none] at hclosing
  rw [hclosing]

theorem pairLine_cons (c : Char) (rest : List Char) :
    pairLine n stack (c :: rest) =
      match pairChar n stack c with
      | .ok stack' => pairLine n stack' rest
      | .error problem => .error problem := rfl

/-- The scan of a text goes on where that of its beginning has ended. -/
theorem pairLine_append (u v : List Char) :
    pairLine n stack (u ++ v) =
      match pairLine n stack u with
      | .ok stack' => pairLine n stack' v
      | .error problem => .error problem := by
  induction u generalizing stack with
  | nil => rfl
  | cons c u ih =>
      rw [List.cons_append, pairLine_cons, pairLine_cons]
      cases pairChar n stack c with
      | ok stack' => exact ih
      | error problem => rfl

/-- Nothing but brackets matters. -/
theorem pairLine_filter (s : List Char) :
    pairLine n stack (s.filter isBracket) = pairLine n stack s := by
  induction s generalizing stack with
  | nil => rfl
  | cons c s ih =>
      cases hc : isBracket c with
      | false =>
          rw [List.filter_cons_of_neg (by simp [hc]), pairLine_cons, pairChar_other hc]
          exact ih
      | true =>
          rw [List.filter_cons_of_pos hc, pairLine_cons, pairLine_cons]
          cases pairChar n stack c with
          | ok stack' => exact ih
          | error problem => rfl

/-- **Words in which brackets nest leave the stack as it was.** -/
theorem Balanced.pairLine {w : List Char} (h : Balanced w) :
    pairLine n stack w = .ok stack := by
  induction h generalizing stack with
  | nil => rfl
  | append hu hv ihu ihv => rw [pairLine_append, ihu]; exact ihv
  | wrap hpair hu ih =>
      rw [List.cons_append, pairLine_cons, pairChar_opening (isOpening_of_pair hpair).1]
      dsimp only
      rw [pairLine_append, ih]
      dsimp only
      rw [pairLine_cons, pairChar_pair hpair]
      rfl

end Line

/-! ### What is left open -/

/-- Words that leave some brackets open, the innermost first. -/
inductive Leaves : List Char → List Char → Prop where
  | nothing {u : List Char} (hu : Balanced u) : Leaves u []
  | more {u v stack : List Char} {o : Char} (hu : Leaves u stack) (ho : isOpening o = true)
      (hv : Balanced v) : Leaves (u ++ o :: v) (o :: stack)

namespace Leaves

variable {u stack : List Char}

theorem append_balanced (h : Leaves u stack) {v : List Char} (hv : Balanced v) :
    Leaves (u ++ v) stack := by
  cases h with
  | nothing hu => exact .nothing (hu.append hv)
  | more hu ho hw =>
      rw [List.append_assoc]
      exact .more hu ho (hw.append hv)

theorem opening (h : Leaves u stack) {o : Char} (ho : isOpening o = true) :
    Leaves (u ++ [o]) (o :: stack) := .more h ho .nil

theorem closing {o c : Char} (h : Leaves u (o :: stack)) (hpair : opening? c = some o) :
    Leaves (u ++ [c]) stack := by
  cases h with
  | more hu ho hv =>
      rw [List.append_assoc]
      exact hu.append_balanced (.wrap hpair hv)

/-- **What leaves some brackets open can be completed**, by their partners. -/
theorem extendable (h : Leaves u stack) : Extendable u := by
  induction stack generalizing u with
  | nil =>
      cases h with
      | nothing hu => exact ⟨[], by rwa [List.append_nil]⟩
  | cons o stack ih =>
      obtain ⟨c, hc⟩ : ∃ c, opening? c = some o := by
        cases h with
        | more hu ho hv => exact exists_pair ho
      obtain ⟨rest, hrest⟩ := ih (h.closing hc)
      exact ⟨c :: rest, by simpa using hrest⟩

/-- The innermost of the brackets left open is the last one of its kind. -/
theorem lastOpen {o : Char} (h : Leaves u (o :: stack)) : LastOpen u o := by
  cases h with
  | @more u v _ _ hu ho hv =>
      refine ⟨u, v, rfl, ho, ?_, fun x o' y hx ho' => hv.isMatched hx ho'⟩
      rintro ⟨inner, c, rest, rfl, hinner, hpair⟩
      -- what follows the bracket would close a bracket that it has not opened
      have hnone : pairLine 1 [] (inner ++ c :: rest) = .ok [] := hv.pairLine
      rw [pairLine_append, hinner.pairLine] at hnone
      dsimp only at hnone
      rw [pairLine_cons, pairChar, if_neg (by simp [(isOpening_of_pair hpair).2]), hpair] at hnone
      exact absurd hnone (by simp)

end Leaves

/-! ### The scan of a word -/

section Word

variable {n : Nat} {stack : List Char} {w : List Char}

theorem pairChar_eq_error {c : Char} {problem : Imbalance}
    (h : pairChar n stack c = .error problem) : problem = .unexpected c n := by
  rw [pairChar] at h
  split at h
  · exact absurd h (by simp)
  · split at h
    · exact absurd h (by simp)
    · split at h
      · split at h
        · exact absurd h (by simp)
        · exact (Except.error.inj h).symm
      · exact (Except.error.inj h).symm

/-- One more bracket that fits opens a bracket or closes the innermost one. -/
theorem Leaves.next {u stack' : List Char} {c : Char} (h : Leaves u stack)
    (hc : isBracket c = true) (hnext : pairChar n stack c = .ok stack') :
    Leaves (u ++ [c]) stack' := by
  by_cases hopening : isOpening c = true
  · rw [pairChar_opening hopening] at hnext
    obtain rfl := Except.ok.inj hnext
    exact h.opening hopening
  · rw [pairChar, if_neg hopening] at hnext
    cases hpair : opening? c with
    | none => exact absurd hc (by simp [isBracket, hopening, hpair])
    | some o =>
        cases stack with
        | nil => exact absurd hnext (by simp [hpair])
        | cons top below =>
            simp only [hpair] at hnext
            split at hnext
            · rename_i htop
              subst htop
              obtain rfl := Except.ok.inj hnext
              exact h.closing hpair
            · exact absurd hnext (by simp)

/-- **The stack of the scan holds the brackets left open**, the innermost first. -/
theorem pairLine_eq_ok (hw : ∀ c ∈ w, isBracket c = true) :
    pairLine n [] w = .ok stack ↔ Leaves w stack := by
  constructor
  · intro h
    induction w using List.reverseRecOn generalizing stack with
    | nil =>
        obtain rfl := Except.ok.inj h
        exact .nothing .nil
    | append_singleton w c ih =>
        rw [pairLine_append] at h
        cases hscan : pairLine n [] w with
        | error problem => exact absurd h (by simp [hscan])
        | ok below =>
            have hbelow := ih (fun d hd => hw d (List.mem_append_left _ hd)) hscan
            simp only [hscan, pairLine_cons] at h
            cases hnext : pairChar n below c with
            | error problem => exact absurd h (by simp [hnext])
            | ok stack' =>
                rw [hnext] at h
                obtain rfl := Except.ok.inj h
                exact hbelow.next (hw c (by simp)) hnext
  · intro h
    induction h with
    | nothing hu => exact hu.pairLine
    | @more u v stack o hu ho hv ih =>
        rw [pairLine_append, ih fun c hc => hw c (List.mem_append_left _ hc)]
        dsimp only
        rw [pairLine_cons, pairChar_opening ho]
        exact hv.pairLine

/-- The scan finds nothing wrong with a word that can be completed. -/
theorem Extendable.scan (h : Extendable w) : ∃ stack, pairLine n [] w = .ok stack := by
  obtain ⟨v, hv⟩ := h
  have hscan : pairLine n [] (w ++ v) = .ok [] := hv.pairLine
  rw [pairLine_append] at hscan
  cases h : pairLine n [] w with
  | ok stack => exact ⟨stack, rfl⟩
  | error problem => exact absurd hscan (by simp [h])

/-- **The scan stops at the first bracket that makes a word impossible to complete.** -/
theorem pairLine_eq_error (hw : ∀ c ∈ w, isBracket c = true) {problem : Imbalance} :
    pairLine n [] w = .error problem ↔ ∃ c, problem = .unexpected c n ∧ FirstUnfit w c := by
  constructor
  · intro h
    induction w using List.reverseRecOn with
    | nil => exact absurd h (by simp [pairLine])
    | append_singleton w c ih =>
        have hbefore : ∀ d ∈ w, isBracket d = true := fun d hd => hw d (List.mem_append_left _ hd)
        have hwhole := h
        rw [pairLine_append] at h
        cases hscan : pairLine n [] w with
        | error earlier =>
            simp only [hscan] at h
            obtain rfl := Except.error.inj h
            obtain ⟨d, hd, u, v, rfl, hfits, hunfit⟩ := ih hbefore hscan
            exact ⟨d, hd, u, v ++ [c], by simp, hfits, hunfit⟩
        | ok stack =>
            simp only [hscan, pairLine_cons] at h
            cases hnext : pairChar n stack c with
            | ok stack' => exact absurd h (by simp [hnext, pairLine])
            | error last =>
                rw [hnext] at h
                obtain rfl := Except.error.inj h
                refine ⟨c, pairChar_eq_error hnext, w, [], rfl,
                  ((pairLine_eq_ok hbefore).1 hscan).extendable, fun hfits => ?_⟩
                obtain ⟨stack', hstack'⟩ := hfits.scan (n := n)
                exact absurd (hwhole.symm.trans hstack') (by simp)
  · rintro ⟨c, rfl, u, v, rfl, hfits, hunfit⟩
    have hbefore : ∀ d ∈ u, isBracket d = true := fun d hd => hw d (List.mem_append_left _ hd)
    obtain ⟨stack, hscan⟩ := hfits.scan (n := n)
    have hleaves := (pairLine_eq_ok hbefore).1 hscan
    rw [pairLine_append, hscan]
    dsimp only
    rw [pairLine_cons]
    cases hnext : pairChar n stack c with
    | ok stack' => exact absurd (hleaves.next (hw c (by simp)) hnext).extendable hunfit
    | error problem => rw [pairChar_eq_error hnext]

end Word

/-! ### The lines of a text -/

theorem mem_of_isBracket {c : Char} (h : isBracket c = true) :
    c ∈ ['(', '[', '\x7b', ')', ']', '\x7d'] := by
  rcases Bool.or_eq_true_iff.1 h with hopening | hclosing
  · simp only [isOpening, Bool.or_eq_true, decide_eq_true_eq] at hopening
    obtain (rfl | rfl) | rfl := hopening <;> decide
  · by_contra hnot
    simp only [List.mem_cons, List.not_mem_nil, or_false, not_or] at hnot
    simp [opening?, hnot] at hclosing

theorem isBracket_of_isLineEnd {c : Char} (h : isLineEnd c = true) : isBracket c = false := by
  by_contra hbracket
  rw [Bool.not_eq_false] at hbracket
  have hnone : ∀ d ∈ ['(', '[', '\x7b', ')', ']', '\x7d'], isLineEnd d = false := by
    simp [isLineEnd]
  simp [hnone c (mem_of_isBracket hbracket)] at h

/-- Splitting a text into lines loses no bracket. -/
theorem filter_flatten_splitLinesFrom (begun s : List Char) :
    (splitLinesFrom begun s).flatten.filter isBracket =
      begun.reverse.filter isBracket ++ s.filter isBracket := by
  have hend {c : Char} (hc : isLineEnd c = true) (s : List Char) :
      (c :: s).filter isBracket = s.filter isBracket :=
    List.filter_cons_of_neg (by simp [isBracket_of_isLineEnd hc])
  fun_induction splitLinesFrom begun s with
  | case1 begun h => simp [List.isEmpty_iff.1 h]
  | case2 begun h => simp
  | case3 begun rest ih =>
      rw [hend (by decide), hend (by decide), List.flatten_cons, List.filter_append, ih]
      simp
  | case4 begun c rest hne hc ih =>
      rw [hend hc, List.flatten_cons, List.filter_append, ih]
      simp
  | case5 begun c rest hne hc ih =>
      rw [ih, List.reverse_cons, List.filter_append, List.append_assoc, ← List.filter_append]
      rfl

/-- The bracket that a problem is about. -/
def Imbalance.bracket : Imbalance → Char
  | .unexpected c _ => c
  | .unclosed c => c

theorem pairLine_error_line {n m : Nat} {stack s : List Char} :
    (pairLine n stack s).mapError Imbalance.bracket =
      (pairLine m stack s).mapError Imbalance.bracket := by
  induction s generalizing stack with
  | nil => rfl
  | cons c s ih =>
      have hchar : (pairChar n stack c).mapError Imbalance.bracket =
          (pairChar m stack c).mapError Imbalance.bracket := by
        rw [pairChar, pairChar]
        split
        · rfl
        · split
          · rfl
          · split
            · split <;> rfl
            · rfl
      rw [pairLine_cons, pairLine_cons]
      cases hn : pairChar n stack c <;> cases hm : pairChar m stack c <;>
        simp only [hn, hm, Except.mapError, reduceCtorEq, Except.error.injEq, Except.ok.injEq] at hchar ⊢
      · exact hchar
      · rw [hchar]
        exact ih

/-- The lines of a text are scanned like the text, but for the number of a line in a report. -/
theorem mapError_pairUp (n : Nat) (stack : List Char) (lines : List (List Char)) :
    (pairUp n stack lines).mapError Imbalance.bracket =
      (pairLine 1 stack lines.flatten).mapError Imbalance.bracket := by
  induction lines generalizing n stack with
  | nil => rfl
  | cons line lines ih =>
      have hline : (pairLine n stack line).mapError Imbalance.bracket =
          (pairLine 1 stack line).mapError Imbalance.bracket := pairLine_error_line
      rw [pairUp, List.flatten_cons, pairLine_append]
      cases hn : pairLine n stack line <;> cases hm : pairLine 1 stack line <;>
        simp only [hn, hm, Except.mapError, reduceCtorEq, Except.error.injEq,
          Except.ok.injEq] at hline ⊢
      · exact hline
      · rw [hline]
        exact ih (n + 1) _

theorem pairLine_eq_unexpected {n : Nat} {stack s : List Char} {problem : Imbalance}
    (h : pairLine n stack s = .error problem) : ∃ c, problem = .unexpected c n := by
  induction s generalizing stack with
  | nil => exact absurd h (by simp [pairLine])
  | cons c s ih =>
      rw [pairLine_cons] at h
      cases hchar : pairChar n stack c with
      | ok stack' => exact ih (by rwa [hchar] at h)
      | error first =>
          rw [hchar] at h
          obtain rfl := Except.error.inj h
          exact ⟨c, pairChar_eq_error hchar⟩

theorem pairUp_eq_unexpected {n : Nat} {stack : List Char} {lines : List (List Char)}
    {problem : Imbalance} (h : pairUp n stack lines = .error problem) :
    ∃ c k, problem = .unexpected c k := by
  induction lines generalizing n stack with
  | nil => exact absurd h (by simp [pairUp])
  | cons line lines ih =>
      rw [pairUp] at h
      cases hline : pairLine n stack line with
      | ok stack' => exact ih (by rwa [hline] at h)
      | error first =>
          rw [hline] at h
          obtain rfl := Except.error.inj h
          obtain ⟨c, hc⟩ := pairLine_eq_unexpected hline
          exact ⟨c, n, hc⟩

/-- **What is reported on a text, by the scan of its word.** -/
theorem imbalance?_eq (content : List Char) :
    match pairLine 1 [] (word content) with
    | .ok [] => imbalance? content = none
    | .ok (o :: _) => imbalance? content = some (.unclosed o)
    | .error problem => ∃ n, imbalance? content = some (.unexpected problem.bracket n) := by
  have hword : (splitLines (strip content)).flatten.filter isBracket = word content := by
    rw [splitLines, filter_flatten_splitLinesFrom]
    simp [word]
  have hscan := mapError_pairUp 1 [] (splitLines (strip content))
  rw [← pairLine_filter, hword] at hscan
  rw [imbalance?]
  cases hlines : pairUp 1 [] (splitLines (strip content)) with
  | ok stack =>
      rw [hlines] at hscan
      cases hline : pairLine 1 [] (word content) with
      | ok stack' =>
          rw [hline] at hscan
          obtain rfl := Except.ok.inj hscan
          cases stack <;> rfl
      | error problem => exact absurd hscan (by simp [hline, Except.mapError])
  | error problem =>
      rw [hlines] at hscan
      cases hline : pairLine 1 [] (word content) with
      | ok stack => exact absurd hscan (by simp [hline, Except.mapError])
      | error problem' =>
          rw [hline] at hscan
          have hbracket : problem.bracket = problem'.bracket := Except.error.inj hscan
          obtain ⟨c, n, rfl⟩ := pairUp_eq_unexpected hlines
          exact ⟨n, by rw [← hbracket]; rfl⟩

/-! ### The grammar is decided -/

theorem LastOpen.unique {w : List Char} {o o' : Char} (h : LastOpen w o) (h' : LastOpen w o') :
    o = o' := by
  obtain ⟨u, v, rfl, ho, hopen, hlast⟩ := h
  obtain ⟨u', v', hw, ho', hopen', hlast'⟩ := h'
  -- of two brackets left open one would stand behind the other, and so be closed
  rcases List.append_eq_append_iff.1 hw with ⟨a, -, hv⟩ | ⟨a, -, hv⟩
  · cases a with
    | nil => exact (List.cons.inj hv).1
    | cons d a => exact absurd (hlast a o' v' (List.cons.inj hv).2 ho') hopen'
  · cases a with
    | nil => exact (List.cons.inj hv).1.symm
    | cons d a => exact absurd (hlast' a o v (List.cons.inj hv).2 ho) hopen

theorem leaves_nil_iff {w : List Char} : Leaves w [] ↔ Balanced w := by
  constructor
  · intro h
    cases h with
    | nothing hu => exact hu
  · exact .nothing

/-- Nothing is reported exactly for texts whose brackets nest. -/
theorem imbalance?_eq_none_iff (content : List Char) :
    imbalance? content = none ↔ Balanced (word content) := by
  have hw : ∀ c ∈ word content, isBracket c = true := fun c hc => (List.mem_filter.1 hc).2
  have hscan := imbalance?_eq content
  rw [← leaves_nil_iff, ← pairLine_eq_ok (n := 1) hw]
  cases hline : pairLine 1 [] (word content) with
  | error problem =>
      rw [hline] at hscan
      obtain ⟨n, hproblem⟩ := hscan
      simp [hproblem]
  | ok stack =>
      rw [hline] at hscan
      cases stack with
      | nil => simpa using hscan
      | cons top below => simp [hscan]

/-- **The scan decides the grammar.**  Nothing is reported exactly for texts whose brackets nest; a
bracket is unexpected exactly if it is the first one together with which the brackets so far cannot
be completed; and one is unclosed exactly if the brackets can be completed but do not nest, and it is
the last one left open. -/
theorem imbalance?_decides (content : List Char) :
    (imbalance? content = none ↔ Balanced (word content)) ∧
    (∀ c, (∃ n, imbalance? content = some (.unexpected c n)) ↔ FirstUnfit (word content) c) ∧
    ∀ o, imbalance? content = some (.unclosed o) ↔
      Extendable (word content) ∧ ¬ Balanced (word content) ∧ LastOpen (word content) o := by
  have hw : ∀ c ∈ word content, isBracket c = true := fun c hc => (List.mem_filter.1 hc).2
  have hbalanced : Balanced (word content) ↔ pairLine 1 [] (word content) = .ok [] := by
    rw [pairLine_eq_ok hw, leaves_nil_iff]
  have hunfit (c : Char) : FirstUnfit (word content) c ↔
      pairLine 1 [] (word content) = .error (.unexpected c 1) := by
    rw [pairLine_eq_error hw]
    simp
  have hreport := imbalance?_eq content
  cases hscan : pairLine 1 [] (word content) with
  | error problem =>
      rw [hscan] at hreport
      obtain ⟨n, hreport⟩ := hreport
      obtain ⟨c, rfl, hc⟩ := (pairLine_eq_error hw).1 hscan
      simp only [hreport, hbalanced, hunfit, hscan, Imbalance.bracket, reduceCtorEq, false_iff,
        Option.some.injEq, Imbalance.unexpected.injEq, Except.error.injEq, not_false_eq_true,
        true_and, and_true]
      refine ⟨fun d => by simp, fun o h => ?_⟩
      obtain ⟨stack, hstack⟩ := h.1.scan (n := 1)
      exact absurd (hscan.symm.trans hstack) (by simp)
  | ok stack =>
      have hleaves := (pairLine_eq_ok hw).1 hscan
      rw [hscan] at hreport
      cases stack with
      | nil => simp [hreport, hbalanced, hunfit, hscan]
      | cons top below =>
          have hlast := hleaves.lastOpen
          simp only [hreport, hbalanced, hunfit, hscan]
          refine ⟨by simp, fun c => by simp, fun o => ?_⟩
          rw [Option.some.injEq, Imbalance.unclosed.injEq]
          constructor
          · rintro rfl
            exact ⟨hleaves.extendable, by simp, hlast⟩
          · rintro ⟨-, -, ho⟩
            exact hlast.unique ho

end EntryTemplates.Source
