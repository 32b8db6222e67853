/-
**What is written holds no character that a document may not hold.**

Main definitions:

* `EntryTemplates.Document.Allowed` — a text that a document may hold.

Main results:

* `EntryTemplates.Document.isAllowed_write` — **every character of a written document is allowed**.
-/

import EntryTemplates.Proofs.Document.EntryTokens

set_option relaxedAutoImplicit false
set_option autoImplicit false

namespace EntryTemplates.Document

/-- A text that a document may hold. -/
def Allowed (s : List Char) : Prop := ∀ ch ∈ s, isAllowed ch = true

theorem Allowed.append {s t : List Char} (hs : Allowed s) (ht : Allowed t) : Allowed (s ++ t) := by
  intro ch hch
  rcases List.mem_append.1 hch with hch | hch
  · exact hs ch hch
  · exact ht ch hch

theorem Allowed.cons {ch : Char} {s : List Char} (hch : isAllowed ch = true) (hs : Allowed s) :
    Allowed (ch :: s) := by
  intro d hd
  rcases List.mem_cons.1 hd with rfl | hd
  · exact hch
  · exact hs d hd

theorem allowed_nil : Allowed [] := by simp [Allowed]

/-! ### Characters -/

theorem isAllowed_of_printable {ch : Char} (hlow : 0x20 ≤ ch.toNat) (hhigh : ch.toNat ≤ 0x7E) :
    isAllowed ch = true := by
  simp [isAllowed, hlow, hhigh]

theorem isAllowed_of_not_isSpecial {ch : Char} (h : isSpecial ch = false) :
    isAllowed ch = true := by
  by_cases hfeed : ch = '\n'
  · subst hfeed
    decide
  · simp [isSpecial, hfeed] at h
    simp [isAllowed]
    omega

theorem isAllowed_of_standsForItself {ch : Char} (h : standsForItself ch = true) :
    isAllowed ch = true := by
  simp [standsForItself] at h
  simp [isAllowed]
  omega

theorem isAllowed_of_isLower {ch : Char} (h : ch.isLower = true) : isAllowed ch = true := by
  obtain ⟨hfrom, hto⟩ := Bool.and_eq_true_iff.1 h
  have hlow : 0x61 ≤ ch.toNat := UInt32.le_iff_toNat_le.1 (of_decide_eq_true hfrom)
  have hhigh : ch.toNat ≤ 0x7A := UInt32.le_iff_toNat_le.1 (of_decide_eq_true hto)
  exact isAllowed_of_printable (by omega) (by omega)

theorem isAllowed_of_isHexDigit {ch : Char} (h : isHexDigit ch = true) : isAllowed ch = true := by
  have hrange : (0x30 ≤ ch.toNat ∧ ch.toNat ≤ 0x39) ∨ (0x61 ≤ ch.toNat ∧ ch.toNat ≤ 0x66) ∨
      (0x41 ≤ ch.toNat ∧ ch.toNat ≤ 0x46) := by
    simpa [isHexDigit, Char.isDigit, Char.le_def, UInt32.le_iff_toNat_le, or_assoc] using h
  exact isAllowed_of_printable (by omega) (by omega)

theorem isAllowed_of_escapeLetter? {ch letter : Char} (h : escapeLetter? ch = some letter) :
    isAllowed letter = true := by
  unfold escapeLetter? at h
  split at h
  all_goals first
    | obtain rfl := Option.some.inj h
      decide
    | exact absurd h (by simp)

/-! ### Texts -/

theorem allowed_of_all {s : List Char} (h : s.all isAllowed = true) : Allowed s :=
  List.all_eq_true.1 h

theorem allowed_continuation : Allowed continuation := allowed_of_all (by decide)

/-- A text in single quotes or without quotes. -/
theorem allowed_foldedFrom {escape : Char → List Char} {s : List Char}
    (hescape : ∀ ch, isSpecial ch = false → Allowed (escape ch))
    (hs : ∀ ch ∈ s, isSpecial ch = false) (fuel : Nat) (inside : Bool) (column : Nat) :
    Allowed (foldedFrom escape fuel inside column s) := by
  induction fuel generalizing s inside column with
  | zero => exact allowed_nil
  | succ fuel ih =>
      cases s with
      | nil => exact allowed_nil
      | cons ch s =>
          have hrest : ∀ d ∈ s, isSpecial d = false := fun d hd => hs d (List.mem_cons_of_mem _ hd)
          have hafter {p : Char → Bool} : ∀ d ∈ s.dropWhile p, isSpecial d = false :=
            fun d hd => hrest d ((List.dropWhile_sublist p).mem hd)
          have hmore {p : Char → Bool} : Allowed (s.takeWhile p) := fun d hd =>
            isAllowed_of_not_isSpecial (hrest d ((List.takeWhile_sublist p).mem hd))
          have hch := isAllowed_of_not_isSpecial (hs ch (by simp))
          rw [foldedFrom]
          split
          · dsimp only
            split
            · exact allowed_continuation.append (ih hafter _ _)
            · exact (Allowed.cons hch hmore).append (ih hafter _ _)
          · split
            · refine Allowed.append ?_ (ih hafter _ _)
              rw [writtenBreaks]
              refine Allowed.append (Allowed.append ?_ (Allowed.cons hch hmore)) ?_
              · split
                · exact Allowed.cons (by decide) allowed_nil
                · exact allowed_nil
              · exact Allowed.cons (by decide) (Allowed.cons (by decide) allowed_nil)
            · exact (hescape ch (hs ch (by simp))).append (ih hrest _ _)

theorem allowed_doubleEscape (ch : Char) : Allowed (doubleEscape ch) := by
  have hcode (letter : Char) (hletter : isAllowed letter = true) (width n : Nat) :
      Allowed ('\\' :: letter :: upperHex width n) :=
    Allowed.cons (by decide) (Allowed.cons hletter fun d hd =>
      isAllowed_of_isHexDigit (List.all_eq_true.1 (all_isHexDigit_upperHex width n) d hd))
  rw [doubleEscape]
  split
  · rename_i letter hletter
    exact Allowed.cons (by decide) (Allowed.cons (isAllowed_of_escapeLetter? hletter) allowed_nil)
  · dsimp only
    split
    · exact hcode _ (by decide) _ _
    · split
      · exact hcode _ (by decide) _ _
      · exact hcode _ (by decide) _ _

theorem allowed_doubleFold (next : List Char) : Allowed (doubleFold next).1 := by
  rw [doubleFold]
  split <;> exact allowed_of_all (by decide)

/-- A text in double quotes. -/
theorem allowed_doubleQuoted (s : List Char) (inside mayFold : Bool) (column : Nat) :
    Allowed (doubleQuoted inside mayFold column s) := by
  induction s generalizing inside mayFold column with
  | nil => exact allowed_nil
  | cons ch s ih =>
      rw [doubleQuoted]
      split
      · rename_i hself
        have hch := isAllowed_of_standsForItself hself
        split
        · exact (allowed_doubleFold _).append (Allowed.cons hch (ih _ _ _))
        · exact Allowed.cons hch (ih _ _ _)
      · dsimp only
        split
        · exact ((allowed_doubleEscape ch).append (allowed_doubleFold _)).append (ih _ _ _)
        · exact (allowed_doubleEscape ch).append (ih _ _ _)

/-! ### Documents -/

theorem allowed_valueText (column : Nat) (text : String) : Allowed (valueText column text) := by
  rw [valueText]
  split
  · rename_i hform
    refine allowed_foldedFrom (fun ch hch => ?_) (formOf_eq_plain hform).1.plain _ _ _
    exact Allowed.cons (isAllowed_of_not_isSpecial hch) allowed_nil
  · rename_i hform
    refine Allowed.cons (by decide) (Allowed.append (allowed_foldedFrom (fun ch hch => ?_)
      (foldable_of_formOf hform).plain _ _ _) (Allowed.cons (by decide) allowed_nil))
    rw [singleChar]
    split
    · exact Allowed.cons (by decide) (Allowed.cons (by decide) allowed_nil)
    · exact Allowed.cons (isAllowed_of_not_isSpecial hch) allowed_nil
  · exact Allowed.cons (by decide) ((allowed_doubleQuoted _ _ _ _).append
      (Allowed.cons (by decide) allowed_nil))

/-- **Every character of a written document is allowed.** -/
theorem isAllowed_write {entries : List (String × String)}
    (hentries : ∀ entry ∈ entries, IsEntryName entry.1) :
    (write entries).toList.all isAllowed = true := by
  rw [write, String.toList_ofList, List.all_eq_true]
  intro ch hch
  obtain ⟨⟨name, text⟩, hentry, hch⟩ := List.mem_flatMap.1 hch
  have hname : Allowed name.toList := fun d hd =>
    isAllowed_of_isLower ((hentries (name, text) hentry).lower d hd)
  have hentry : Allowed (entryText (name, text)) := by
    have := entryText_append name text []
    rw [List.append_nil] at this
    rw [this]
    exact hname.append (Allowed.cons (by decide) (Allowed.cons (by decide)
      ((allowed_valueText _ _).append (Allowed.cons (by decide) allowed_nil))))
  exact hentry ch hch

end EntryTemplates.Document
