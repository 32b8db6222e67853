/-
**Whole numbers as text.**

A whole number is read and written in decimal digits only if these are not too many; the limit holds
wherever the number stands, also deep inside a collection.

Main definitions:

* `EntryTemplates.Number.TooLong` — a number of too many digits;
* `EntryTemplates.Number.intText` — a whole number in decimal digits.
-/

set_option relaxedAutoImplicit false
set_option autoImplicit false

namespace EntryTemplates.Number

/-- The most digits of a whole number that is written or read in decimal digits. -/
def digitLimit : Nat := 4300

/-- A whole number of too many digits. -/
inductive TooLong where
  /-- It is to be written. -/
  | written
  /-- It is to be read from so many digits. -/
  | read (count : Nat)
  deriving DecidableEq, Repr, Inhabited

/-- The report on a number of too many digits. -/
def TooLong.message (n : TooLong) : String :=
  let found := match n with
    | .written => "; "
    | .read count => s!": value has {count} digits; "
  s!"Exceeds the limit ({digitLimit} digits) for integer string conversion" ++ found
    ++ "use sys.set_int_max_str_digits() to increase the limit"

/-- **A whole number in decimal digits**, if these are not too many. -/
def intText (i : Int) : Except TooLong String :=
  if (Nat.toDigits 10 i.natAbs).length ≤ digitLimit then .ok (toString i) else .error .written

/-- A number has at most `count` digits exactly if it is less than the power. -/
theorem length_toDigits_le_iff {n count : Nat} (h : 0 < count) :
    (Nat.toDigits 10 n).length ≤ count ↔ n < Nat.pow 10 count :=
  Nat.length_toDigits_le_iff (by decide) h

theorem intText_of_lt {i : Int} (h : i.natAbs < Nat.pow 10 digitLimit) :
    intText i = .ok (toString i) :=
  if_pos ((length_toDigits_le_iff (by decide)).2 h)

theorem intText_of_le {i : Int} (h : Nat.pow 10 digitLimit ≤ i.natAbs) :
    intText i = .error .written :=
  if_neg fun hle => absurd ((length_toDigits_le_iff (by decide)).1 hle) (Nat.not_lt.2 h)

end EntryTemplates.Number
