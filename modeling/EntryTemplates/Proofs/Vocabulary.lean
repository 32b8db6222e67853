/-
**The spellings of a name.**

A text means a member of a vocabulary exactly if it is the member's name with any of the letters of
ASCII as capitals and any white space around it.  Lower case is Unicode's, so texts with other
letters could come to a name as well; none does, because what a character beyond ASCII becomes
holds a character that no name has.  The Kelvin sign is why `k` is not among those of names.

Main definitions:

* `EntryTemplates.Text.nameChars` — the characters of names;
* `EntryTemplates.Spells` — a text spells a name;
* `EntryTemplates.Vocabulary.IsPlain` — a vocabulary of different names of such characters.

Main results:

* `EntryTemplates.Text.exists_lowerAfter_of_beyond` — **beyond ASCII are no letters of names**;
* `EntryTemplates.Text.lowerAfter_eq_iff` — the texts whose lower case is a name;
* `EntryTemplates.normalized_eq_iff` — the texts that are compared as a name;
* `EntryTemplates.Vocabulary.read_eq_ok_iff`, `read_eq_error` — **the texts that mean a member**.
-/

import EntryTemplates.Framework
import Mathlib.Data.List.TakeWhile
import Mathlib.Tactic.Common

set_option relaxedAutoImplicit false
set_option autoImplicit false

namespace EntryTemplates

namespace Text

/-! ### Lower case beyond ASCII -/

/-- The characters of names: small letters other than `k`, digits and the underscore. -/
def nameChars : List Char := "abcdefghijlmnopqrstuvwxyz0123456789_".toList

theorem code_of_mem_nameChars {d : Char} (hd : d ∈ nameChars) :
    0 < d.toNat ∧ d.toNat < 0x80 ∧ d.toNat ≠ 0x6B := by
  have hall : (nameChars.all fun d => 0 < d.toNat ∧ d.toNat < 0x80 ∧ d.toNat ≠ 0x6B) = true := by
    decide
  exact of_decide_eq_true (List.all_eq_true.1 hall d hd)

/-- No character of a name has a code beyond ASCII, or that of `k`. -/
theorem ofNat_not_mem_nameChars {code : Nat} (h : 0x80 ≤ code ∨ code = 0x6B) :
    Char.ofNat code ∉ nameChars := by
  intro hmem
  have hchar := code_of_mem_nameChars hmem
  by_cases hvalid : code.isValidChar
  · have hcode : (Char.ofNat code).toNat = code := by
      rw [Char.ofNat, dif_pos hvalid]
      rfl
    omega
  · -- what is no code stands for the first of all characters
    have hzero : (Char.ofNat code).toNat = 0 := by
      rw [Char.ofNat, dif_neg hvalid]
      rfl
    omega

/-- Every row of the table leads beyond ASCII, save the one of the Kelvin sign. -/
theorem image_of_mem_lowerRows :
    ∀ row ∈ lowerRows, 0x80 ≤ row.1 + row.2.2.2 ∨ row.1 = row.2.1 ∧ row.1 + row.2.2.2 = 0x6B := by
  decide +kernel

theorem image_of_mem_lowerLists : ∀ entry ∈ lowerLists, ∃ code ∈ entry.2, 0x80 ≤ code := by
  decide

theorem shiftBy_lowerRows {n code : Nat} (h : shiftBy lowerRows n = some code) :
    0x80 ≤ code ∨ code = 0x6B := by
  unfold shiftBy at h
  split at h
  · rename_i first last step shift hfind
    have hrow := image_of_mem_lowerRows _ (List.mem_of_find?_eq_some hfind)
    have hplace := List.find?_some hfind
    simp only [Bool.and_eq_true, decide_eq_true_eq] at hplace
    simp only at hrow
    obtain rfl := Option.some.inj h
    omega
  · cases h

variable {c : Char}

theorem exists_mapBeyond_not_mem_nameChars (h : 0x80 ≤ c.toNat) :
    ∃ d ∈ mapBeyond lowerRows lowerLists c, d ∉ nameChars := by
  unfold mapBeyond
  split
  · rename_i codes hlookup
    obtain ⟨entry, hentry, hcodes⟩ : ∃ entry ∈ lowerLists, entry.2 = codes := by
      obtain ⟨before, after, hlists, -⟩ := List.lookup_eq_some_iff.1 hlookup
      exact ⟨(c.toNat, codes), by simp [hlists], rfl⟩
    obtain ⟨code, hcode, hbeyond⟩ := image_of_mem_lowerLists entry hentry
    rw [hcodes] at hcode
    exact ⟨_, List.mem_map_of_mem hcode, ofNat_not_mem_nameChars (Or.inl hbeyond)⟩
  · split
    · rename_i code hshift
      exact ⟨_, List.mem_singleton_self _, ofNat_not_mem_nameChars (shiftBy_lowerRows hshift)⟩
    · refine ⟨c, List.mem_singleton_self _, fun hmem => ?_⟩
      have hcode := code_of_mem_nameChars hmem
      omega

/-- **Beyond ASCII are no letters of names**: what such a character becomes in lower case,
wherever it stands, holds a character that no name has. -/
theorem exists_lowerAfter_of_beyond (h : 0x80 ≤ c.toNat) (before rest : List Char) :
    ∃ d ∈ lowerAfter before (c :: rest), d ∉ nameChars := by
  obtain ⟨d, hd, hnot⟩ := exists_mapBeyond_not_mem_nameChars h
  rw [lowerAfter]
  split
  · -- a capital sigma becomes one of the two small ones
    split
    · exact ⟨'ς', by simp, by decide⟩
    · exact ⟨'σ', by simp, by decide⟩
  · rw [lowerChar, if_neg (by omega)]
    exact ⟨d, List.mem_append_left _ hd, hnot⟩

theorem lowerAfter_of_ascii (h : c.toNat < 0x80) (before rest : List Char) :
    lowerAfter before (c :: rest) = c.toLower :: lowerAfter (c :: before) rest := by
  have hsigma : c ≠ 'Σ' := by
    rintro rfl
    exact absurd h (by decide)
  rw [lowerAfter, if_neg hsigma, lowerChar, if_pos h]
  rfl

theorem toLower_of_beyond (h : 0x80 ≤ c.toNat) : c.toLower = c := by
  have hlast : 'Z'.val.toNat = 90 := by decide
  have hval : c.val.toNat = c.toNat := rfl
  refine dif_neg fun hupper => ?_
  simp only [UInt32.le_iff_toNat_le] at hupper
  omega

/-- **The texts whose lower case is a name** are those of ASCII that have it as their lower case. -/
theorem lowerAfter_eq_iff {name : List Char} (hname : ∀ d ∈ name, d ∈ nameChars)
    (before s : List Char) : lowerAfter before s = name ↔ s.map Char.toLower = name := by
  induction s generalizing before name with
  | nil => rfl
  | cons c rest ih =>
      by_cases hascii : c.toNat < 0x80
      · rw [lowerAfter_of_ascii hascii, List.map_cons]
        cases name with
        | nil => simp
        | cons d name =>
            have hrest : ∀ d ∈ name, d ∈ nameChars := fun d hd =>
              hname d (List.mem_cons_of_mem _ hd)
            rw [List.cons.injEq, List.cons.injEq, ih hrest]
      · have hbeyond : 0x80 ≤ c.toNat := Nat.le_of_not_lt hascii
        refine iff_of_false (fun h => ?_) fun h => ?_
        · obtain ⟨d, hd, hnot⟩ := exists_lowerAfter_of_beyond hbeyond before rest
          exact hnot (hname d (h ▸ hd))
        · have hmem : c ∈ name := by
            rw [← h, List.map_cons, toLower_of_beyond hbeyond]
            exact List.mem_cons_self
          have hcode := code_of_mem_nameChars (hname c hmem)
          omega

/-! ### White space around a name -/

/-- What becomes a letter of a name is no white space. -/
theorem isBlank_of_toLower_mem (h : c.toLower ∈ nameChars) : isBlank c = false := by
  by_cases hascii : c.toNat < 0x80
  · have hall : ∀ n < 0x80,
        (Char.ofNat n).toLower ∈ nameChars → isBlank (Char.ofNat n) = false := by
      decide +kernel
    have hc := hall c.toNat hascii
    rw [Char.ofNat_toNat] at hc
    exact hc h
  · rw [toLower_of_beyond (Nat.le_of_not_lt hascii)] at h
    have hcode := code_of_mem_nameChars h
    omega

/-- A text is what is left of it with white space around. -/
theorem exists_trim (s : List Char) :
    ∃ left right, s = left ++ trim s ++ right ∧ ∀ c ∈ left ++ right, isBlank c = true := by
  refine ⟨s.takeWhile isBlank, ((trimStart s).reverse.takeWhile isBlank).reverse, ?_, ?_⟩
  · rw [List.append_assoc, trim, trimEnd, ← List.reverse_append, List.takeWhile_append_dropWhile,
      List.reverse_reverse, trimStart, List.takeWhile_append_dropWhile]
  · intro c hc
    rw [List.mem_append, List.mem_reverse] at hc
    exact hc.elim List.mem_takeWhile_imp List.mem_takeWhile_imp

theorem dropWhile_around {left core : List Char} (hleft : ∀ c ∈ left, isBlank c = true)
    (hcore : ∀ c ∈ core, isBlank c = false) {right : List Char} (hne : core ≠ []) :
    (left ++ core ++ right).dropWhile isBlank = core ++ right := by
  obtain ⟨c, core, rfl⟩ := List.exists_cons_of_ne_nil hne
  rw [List.append_assoc, List.dropWhile_append_of_pos hleft, List.cons_append,
    List.dropWhile_cons_of_neg (by simp [hcore c List.mem_cons_self])]

/-- White space around a text without any is what is left out. -/
theorem trim_around {left core right : List Char} (hblank : ∀ c ∈ left ++ right, isBlank c = true)
    (hcore : ∀ c ∈ core, isBlank c = false) : trim (left ++ core ++ right) = core := by
  have hleft : ∀ c ∈ left, isBlank c = true := fun c hc => hblank c (List.mem_append_left _ hc)
  have hright : ∀ c ∈ right, isBlank c = true := fun c hc => hblank c (List.mem_append_right _ hc)
  by_cases hne : core = []
  · rw [hne, List.append_nil, trim, trimStart, List.dropWhile_eq_nil_iff.2 hblank]
    rfl
  · rw [trim, trimStart, dropWhile_around hleft hcore hne, trimEnd, List.reverse_append,
      ← List.append_nil (right.reverse ++ core.reverse),
      dropWhile_around (by simpa using hright) (by simpa using hcore) (by simpa using hne),
      List.append_nil, List.reverse_reverse]

end Text

open Text (nameChars isBlank)

/-! ### Names -/

/-- A text spells a name: the name itself, with any of its letters as capitals of ASCII and any
white space around it. -/
def Spells (s name : String) : Prop :=
  ∃ left core right : List Char, s.toList = left ++ core ++ right ∧
    (∀ c ∈ left ++ right, isBlank c = true) ∧ core.map Char.toLower = name.toList

section Names

variable {s name : String}

/-- **The texts that are compared as a name** are those that spell it. -/
theorem normalized_eq_iff (hname : ∀ d ∈ name.toList, d ∈ nameChars) :
    normalized s = name ↔ Spells s name := by
  have hlower : normalized s = name ↔ (Text.trim s.toList).map Char.toLower = name.toList := by
    rw [← Text.lowerAfter_eq_iff hname [], ← String.toList_inj, normalized, String.toList_ofList]
    rfl
  rw [hlower]
  constructor
  · intro h
    obtain ⟨left, right, hs, hblank⟩ := Text.exists_trim s.toList
    exact ⟨left, _, right, hs, hblank, h⟩
  · rintro ⟨left, core, right, hs, hblank, hcore⟩
    rw [hs, Text.trim_around hblank fun c hc => ?_]
    · exact hcore
    · refine Text.isBlank_of_toLower_mem (hname _ ?_)
      rw [← hcore]
      exact List.mem_map_of_mem hc

/-- A text with a character beyond ASCII that is no white space spells no name. -/
theorem not_spells_of_beyond (hname : ∀ d ∈ name.toList, d ∈ nameChars) {c : Char}
    (hc : c ∈ s.toList) (hbeyond : 0x80 ≤ c.toNat) (hblank : isBlank c = false) :
    ¬ Spells s name := by
  rintro ⟨left, core, right, hs, hblanks, hcore⟩
  have hmem : c ∈ core := by
    rw [hs, List.append_assoc, List.mem_append, List.mem_append] at hc
    rcases hc with hc | hc | hc
    · simp [hblanks c (List.mem_append_left _ hc)] at hblank
    · exact hc
    · simp [hblanks c (List.mem_append_right _ hc)] at hblank
  have hname := hname c.toLower (hcore ▸ List.mem_map_of_mem hmem)
  rw [Text.toLower_of_beyond hbeyond] at hname
  have hcode := Text.code_of_mem_nameChars hname
  omega

end Names

namespace Vocabulary

/-- A vocabulary that lists its members, with different names of the characters of names. -/
structure IsPlain (α : Type) [Vocabulary α] : Prop where
  mem_all : ∀ m : α, m ∈ all
  mem_nameChars : ∀ m : α, ∀ d ∈ (name m).toList, d ∈ nameChars
  name_injective : Function.Injective (name : α → String)

/-- A text is made of characters of names, as it is tested. -/
theorem mem_nameChars_of_all {text : List Char}
    (h : (text.all fun d => d ∈ nameChars) = true) : ∀ d ∈ text, d ∈ nameChars :=
  fun d hd => of_decide_eq_true (List.all_eq_true.1 h d hd)

theorem isPlain_framework : IsPlain Framework where
  mem_all m := by cases m <;> decide
  mem_nameChars m := mem_nameChars_of_all (by cases m <;> decide)
  name_injective m m' := by cases m <;> cases m' <;> decide

theorem isPlain_style : IsPlain Style where
  mem_all m := by cases m <;> decide
  mem_nameChars m := mem_nameChars_of_all (by cases m <;> decide)
  name_injective m m' := by cases m <;> cases m' <;> decide

section Plain

variable {α : Type} [Vocabulary α] {s : String} (hplain : IsPlain α)
include hplain

theorem exact_eq_ok_iff {m : α} : exact s = .ok m ↔ name m = s := by
  unfold exact
  cases hfind : (find? s : Option α) with
  | some m' =>
      have hm' : name m' = s := by simpa using List.find?_some hfind
      rw [Except.ok.injEq, ← hm']
      exact ⟨fun h => by rw [h], fun h => (hplain.name_injective h).symm⟩
  | none =>
      refine iff_of_false (by simp) fun h => ?_
      have hnone := List.find?_eq_none.1 hfind m (hplain.mem_all m)
      simp [h] at hnone

/-- **The texts that mean a member** are those that spell its name. -/
theorem read_eq_ok_iff {m : α} : read s = .ok m ↔ Spells s (name m) := by
  rw [read, exact_eq_ok_iff hplain, eq_comm, normalized_eq_iff (hplain.mem_nameChars m)]

/-- Every other text is rejected, as it is compared. -/
theorem read_eq_error (h : ∀ m : α, ¬ Spells s (name m)) :
    (read s : Except UnknownName α) = .error ⟨title α, normalized s⟩ := by
  have hnone : (find? (normalized s) : Option α) = none := by
    refine List.find?_eq_none.2 fun m _ => ?_
    rw [beq_iff_eq, eq_comm, normalized_eq_iff (hplain.mem_nameChars m)]
    exact h m
  rw [read, exact, hnone]

end Plain

end Vocabulary

end EntryTemplates
