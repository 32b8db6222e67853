/-
**Codes of characters in hexadecimal digits.**

Inside double quotes a character may be written by its code, in two, four or eight digits.

Main results:

* `EntryTemplates.Document.hexValue_upperHex` — the digits of a number have its value;
* `EntryTemplates.Document.length_upperHex` — there are as many of them as asked for;
* `EntryTemplates.Document.ofCode_toNat` — the code of a character means that character.
-/

import EntryTemplates.Document.Lexeme
import EntryTemplates.Document.Write
import Mathlib.Algebra.Group.Nat.Defs
import Mathlib.Tactic.Common

set_option relaxedAutoImplicit false
set_option autoImplicit false

namespace EntryTemplates.Document

/-- The value of one hexadecimal digit. -/
def digitValue (ch : Char) : Nat := if ch.isDigit then ch.toNat - 0x30 else ch.toLower.toNat - 0x57

/-- The digit of a number below sixteen, as it is written. -/
theorem digit_lt_sixteen {n : Nat} (h : n < 16) :
    isHexDigit n.digitChar.toUpper = true ∧ digitValue n.digitChar.toUpper = n := by
  revert n
  decide

theorem hexValue_append_singleton (digits : List Char) (ch : Char) :
    hexValue (digits ++ [ch]) = hexValue digits * 16 + digitValue ch := by
  rw [hexValue, List.foldl_append]
  rfl

/-- **The digits of a number have its value**, and all of them are hexadecimal digits. -/
theorem hexValue_map_toDigits (n : Nat) :
    hexValue ((Nat.toDigits 16 n).map Char.toUpper) = n
      ∧ ((Nat.toDigits 16 n).map Char.toUpper).all isHexDigit = true := by
  -- the last digit is the remainder, the others are the digits of the quotient
  induction n using Nat.strongRecOn with
  | ind n ih =>
      rw [Nat.toDigits_eq_if (by decide)]
      split
      · rename_i hn
        obtain ⟨hdigit, hvalue⟩ := digit_lt_sixteen hn
        refine ⟨?_, by simpa using hdigit⟩
        have : hexValue ([] ++ [n.digitChar.toUpper]) = n := by
          rw [hexValue_append_singleton, hvalue]
          simp [hexValue]
        exact this
      · rename_i hn
        obtain ⟨hvalue, hall⟩ := ih (n / 16) (by omega)
        obtain ⟨hdigit, hlast⟩ := digit_lt_sixteen (Nat.mod_lt n (by decide : 0 < 16))
        rw [List.map_append, List.map_singleton, hexValue_append_singleton, hvalue, hlast]
        refine ⟨by omega, ?_⟩
        rw [List.all_append, hall]
        simpa using hdigit

theorem upperHex_eq (width n : Nat) :
    upperHex width n = List.replicate (width - (Nat.toDigits 16 n).length) '0'
      ++ (Nat.toDigits 16 n).map Char.toUpper := by
  simp [upperHex, Text.hexDigits]

/-- Leading zeros do not change the value. -/
theorem hexValue_replicate_append (k : Nat) (digits : List Char) :
    hexValue (List.replicate k '0' ++ digits) = hexValue digits := by
  induction k with
  | zero => rfl
  | succ k ih => rw [List.replicate_succ, List.cons_append, ← ih]; rfl

theorem hexValue_upperHex (width n : Nat) : hexValue (upperHex width n) = n := by
  rw [upperHex_eq, hexValue_replicate_append]
  exact (hexValue_map_toDigits n).1

theorem all_isHexDigit_upperHex (width n : Nat) : (upperHex width n).all isHexDigit = true := by
  rw [upperHex_eq, List.all_append, (hexValue_map_toDigits n).2, List.all_replicate]
  have : isHexDigit '0' = true := by decide
  simp [this]

/-- There are as many digits as asked for if the number has no more. -/
theorem length_upperHex {width n : Nat} (hwidth : 0 < width) (hn : n < 16 ^ width) :
    (upperHex width n).length = width := by
  have h : (Nat.toDigits 16 n).length ≤ width :=
    (Nat.length_toDigits_le_iff (by decide) hwidth).2 hn
  rw [upperHex_eq, List.length_append, List.length_replicate, List.length_map]
  omega

/-- The code of a character means that character. -/
theorem ofCode_toNat (ch : Char) : Text.Letter.ofCode ch.toNat = .char ch := by
  have h : ch.toNat.isValidChar := ch.valid
  rw [Text.Letter.ofCode, if_pos h, Char.ofNat_toNat]

theorem toNat_lt (ch : Char) : ch.toNat < 0x110000 := by
  rcases ch.valid with h | ⟨-, h⟩
  · exact Nat.lt_trans h (by decide)
  · exact h

end EntryTemplates.Document
