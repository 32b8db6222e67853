/-
**Texts that a console shows as they are.**

Characters that are not read as tags are shown without the sequences that control a terminal.  Such
a sequence is an escape character and a square bracket, any number of digits and punctuation, and a
letter.  So a text is shown as it is exactly if none of them occurs in it.

Main definitions:

* `EntryTemplates.Console.IsControl` — the sequences that control a terminal.

Main results:

* `EntryTemplates.Console.withoutControls_cases` — a text begins with such a sequence, which is left
  out, or its first character is kept;
* `EntryTemplates.Console.withoutControls_eq_self_iff` — **which texts are shown as they are**.
-/

import EntryTemplates.Console.Display
import Mathlib.Tactic.Common

set_option relaxedAutoImplicit false
set_option autoImplicit false

namespace EntryTemplates.Console

/-- What may stand between the bracket and the letter of a controlling sequence. -/
def isInner (c : Char) : Bool := c = ';' || c = '?' || c.isDigit

/-- The sequences that control a terminal. -/
def IsControl (seq : List Char) : Prop :=
  ∃ inner letter, seq = '\x1b' :: '[' :: inner ++ [letter] ∧ inner.all isInner = true ∧
    letter.isAlpha = true

theorem not_isInner_of_isAlpha {c : Char} (h : c.isAlpha = true) : isInner c = false := by
  rw [isInner, Bool.or_eq_false_iff, Bool.or_eq_false_iff, decide_eq_false_iff_not,
    decide_eq_false_iff_not]
  refine ⟨⟨?_, ?_⟩, ?_⟩
  · rintro rfl
    exact absurd h (by decide)
  · rintro rfl
    exact absurd h (by decide)
  · delta Char.isAlpha Char.isUpper Char.isLower at h
    delta Char.isDigit
    simp only [Bool.or_eq_true, Bool.and_eq_true, decide_eq_true_eq, Bool.and_eq_false_iff,
      decide_eq_false_iff_not, UInt32.le_iff_toNat_le, ge_iff_le] at h ⊢
    have hletters : 'A'.val.toNat = 65 ∧ 'a'.val.toNat = 97 ∧ '9'.val.toNat = 57 := by decide
    omega

/-- After a bracket the inner characters are passed over, and a letter is asked for. -/
theorem controlLength?_bracket (rest : List Char) :
    controlLength? ('[' :: rest) =
      match rest.dropWhile isInner with
      | letter :: _ => if letter.isAlpha then some ((rest.takeWhile isInner).length + 2) else none
      | [] => none := by
  have hdrop : rest.drop (rest.takeWhile isInner).length = rest.dropWhile isInner :=
    List.append_cancel_left ((List.prefix_iff_eq_append.1 (List.takeWhile_prefix isInner)).trans
      List.takeWhile_append_dropWhile.symm)
  rw [← hdrop]
  rfl

/-- A controlling sequence is read up to its letter. -/
theorem controlLength?_eq_some {rest : List Char} {n : Nat} :
    controlLength? rest = some n ↔
      ∃ seq after, '\x1b' :: rest = seq ++ after ∧ IsControl seq ∧ seq.length = n + 1 := by
  constructor
  · intro h
    cases rest with
    | nil => exact absurd h (by simp [controlLength?])
    | cons c rest =>
        by_cases hc : c = '['
        · subst hc
          rw [controlLength?_bracket] at h
          split at h
          · rename_i letter after hdrop
            split at h
            · rename_i hletter
              obtain rfl := Option.some.inj h
              refine ⟨'\x1b' :: '[' :: rest.takeWhile isInner ++ [letter], after, ?_,
                ⟨rest.takeWhile isInner, letter, rfl, List.all_takeWhile, hletter⟩, by simp⟩
              have hrest : rest = rest.takeWhile isInner ++ letter :: after := by
                rw [← hdrop, List.takeWhile_append_dropWhile]
              rw [List.append_assoc]
              exact congrArg (fun s => '\x1b' :: '[' :: s) hrest
            · exact absurd h (by simp)
          · exact absurd h (by simp)
        · rw [controlLength?] at h
          · exact absurd h (by simp)
          · rintro more hmore
            exact hc (List.cons.inj hmore).1
  · rintro ⟨seq, after, hseq, ⟨inner, letter, rfl, hinner, hletter⟩, hlength⟩
    obtain ⟨-, rfl⟩ := List.cons.inj hseq
    have hn : n = inner.length + 2 := by simpa using hlength.symm
    -- the letter is the first character that is none of the inner ones
    have htake : (inner ++ letter :: after).takeWhile isInner = inner := by
      rw [List.takeWhile_append_of_pos (by simpa using hinner),
        List.takeWhile_cons_of_neg (by simp [not_isInner_of_isAlpha hletter]), List.append_nil]
    have hdrop : (inner ++ letter :: after).dropWhile isInner = letter :: after := by
      have happend := List.takeWhile_append_dropWhile (p := isInner)
        (l := inner ++ letter :: after)
      rw [htake] at happend
      exact List.append_cancel_left happend
    have hrest : (('[' :: inner).append [letter]).append after =
        '[' :: (inner ++ letter :: after) := by simp
    rw [hrest, controlLength?_bracket, hdrop, htake, hn]
    simp [hletter]

/-! ### Leaving sequences out -/

theorem withoutControlsAfter_eq (n : Nat) (s : List Char) :
    withoutControlsAfter n s = withoutControls (s.drop n) := by
  induction n generalizing s with
  | zero => rfl
  | succ n ih =>
      cases s with
      | nil => rfl
      | cons c s => exact ih s

/-- **A text begins with a controlling sequence**, which is left out, or its first character is
kept. -/
theorem withoutControls_cases (c : Char) (rest : List Char) :
    (∃ seq after, c :: rest = seq ++ after ∧ IsControl seq ∧
      withoutControls (c :: rest) = withoutControls after) ∨
    ((∀ seq after, c :: rest = seq ++ after → ¬ IsControl seq) ∧
      withoutControls (c :: rest) = c :: withoutControls rest) := by
  by_cases hc : c = '\x1b'
  · subst hc
    cases hlength : controlLength? rest with
    | some n =>
        have hstep : withoutControls ('\x1b' :: rest) = withoutControlsAfter n rest := by
          rw [withoutControls, withoutControlsAfter, if_pos rfl, hlength]
        obtain ⟨seq, after, hseq, hcontrol, hn⟩ := controlLength?_eq_some.1 hlength
        refine Or.inl ⟨seq, after, hseq, hcontrol, ?_⟩
        have hdrop := congrArg (List.drop (n + 1)) hseq
        rw [List.drop_succ_cons, ← hn, List.drop_left] at hdrop
        rw [hstep, withoutControlsAfter_eq, hdrop]
    | none =>
        have hstep : withoutControls ('\x1b' :: rest) = '\x1b' :: withoutControls rest := by
          rw [withoutControls, withoutControlsAfter, if_pos rfl, hlength]
          rfl
        refine Or.inr ⟨fun seq after hseq hcontrol => ?_, hstep⟩
        have hpos : seq.length = seq.length - 1 + 1 := by
          obtain ⟨inner, letter, rfl, -⟩ := hcontrol
          simp
        rw [controlLength?_eq_some.2 ⟨seq, after, hseq, hcontrol, hpos⟩] at hlength
        exact absurd hlength (by simp)
  · have hstep : withoutControls (c :: rest) = c :: withoutControls rest := by
      rw [withoutControls, withoutControlsAfter, if_neg hc]
      rfl
    refine Or.inr ⟨?_, hstep⟩
    rintro seq after hseq ⟨inner, letter, rfl, -⟩
    exact hc (List.cons.inj hseq).1

theorem length_withoutControls_le (s : List Char) : (withoutControls s).length ≤ s.length := by
  induction hlength : s.length using Nat.strongRecOn generalizing s with
  | ind n ih =>
      subst hlength
      cases s with
      | nil => simp
      | cons c rest =>
          rcases withoutControls_cases c rest with ⟨seq, after, hseq, hcontrol, heq⟩ | ⟨-, heq⟩
          · obtain ⟨inner, letter, rfl, -⟩ := hcontrol
            have hlength := congrArg List.length hseq
            rw [List.length_append] at hlength
            have hshort : after.length < (c :: rest).length := by
              rw [hlength]
              simp
            rw [heq]
            exact Nat.le_trans (ih after.length hshort after rfl) (Nat.le_of_lt hshort)
          · rw [heq, List.length_cons, List.length_cons]
            exact Nat.succ_le_succ (ih rest.length (by simp) rest rfl)

/-- **Which texts are shown as they are**: those in which no controlling sequence occurs. -/
theorem withoutControls_eq_self_iff {s : List Char} :
    withoutControls s = s ↔ ∀ before seq after, s = before ++ seq ++ after → ¬ IsControl seq := by
  induction s with
  | nil =>
      refine iff_of_true rfl ?_
      rintro before seq after hs ⟨inner, letter, rfl, -⟩
      simp at hs
  | cons c rest ih =>
      rcases withoutControls_cases c rest with ⟨seq, after, hseq, hcontrol, heq⟩ | ⟨hnone, heq⟩
      · -- what is left is shorter
        refine iff_of_false (fun hsame => ?_) fun h => h [] seq after hseq hcontrol
        obtain ⟨inner, letter, rfl, -⟩ := hcontrol
        have hle := length_withoutControls_le after
        have hlength := congrArg List.length hseq
        rw [← heq, hsame, hlength] at hle
        simp only [List.length_append, List.length_cons] at hle
        omega
      · rw [heq, List.cons.injEq, and_iff_right rfl]
        constructor
        · intro hsame before seq after hs
          cases before with
          | nil => exact hnone seq after hs
          | cons d before => exact ih.1 hsame before seq after (List.cons.inj hs).2
        · exact fun h => ih.2 fun before seq after hs => h (c :: before) seq after (by rw [hs]; rfl)

end EntryTemplates.Console
