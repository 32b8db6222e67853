/-
**Floating-point numbers as quotients.**

Main definitions:

* `EntryTemplates.Number.quotient?` — numerator and denominator of a finite number;
* `EntryTemplates.Number.roundedQuotient` — a quotient rounded to an integer;
* `EntryTemplates.Number.fixedText` — a number with so many decimals.
-/

import EntryTemplates.Number.Shortest

set_option relaxedAutoImplicit false
set_option autoImplicit false

namespace EntryTemplates.Number

/-- Numerator and denominator of a finite number. -/
def quotient? (x : Float) : Option (Int × Nat) :=
  match Binary.ofFloat x with
  | .finite negative mantissa exponent _ =>
      let n : Int := mantissa * Int.pow 2 exponent.toNat
      some (if negative then -n else n, Nat.pow 2 (-exponent).toNat)
  | _ => none

/-- A quotient of natural numbers rounded to the nearest one; a tie goes to the even one. -/
def roundedQuotient (n d : Nat) : Nat :=
  let q := n / d
  let r := n % d
  if 2 * r < d then q else if d < 2 * r then q + 1 else if q % 2 = 0 then q else q + 1

/-- A natural number of hundredths, thousandths and so on, as a decimal. -/
def pointText (n decimals : Nat) : List Char :=
  let digits := Nat.toDigits 10 n
  let digits := List.replicate (decimals + 1 - digits.length) '0' ++ digits
  let whole := digits.take (digits.length - decimals)
  if decimals = 0 then whole else whole ++ '.' :: digits.drop (digits.length - decimals)

/-- **A number with so many decimals**, rounded to the nearest. -/
def fixedText (x : Float) (decimals : Nat) : String :=
  match Binary.ofFloat x with
  | .nan => "nan"
  | .infinite negative => if negative then "-inf" else "inf"
  | .finite negative mantissa exponent _ =>
      let n := mantissa * Nat.pow 2 exponent.toNat * Nat.pow 10 decimals
      let body := pointText (roundedQuotient n (Nat.pow 2 (-exponent).toNat)) decimals
      String.ofList (if negative then '-' :: body else body)

end EntryTemplates.Number
