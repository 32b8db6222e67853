/-
**Numbers written in a given form.**

Main definitions:

* `EntryTemplates.Number.exponentForm` — a digit, a point, digits and an exponent;
* `EntryTemplates.Number.generalForm` — so many significant digits, with an exponent only where the
  number is very small or very large;
* `EntryTemplates.Number.inBase` — an integer in a base.
-/

import EntryTemplates.Number.Quotient

set_option relaxedAutoImplicit false
set_option autoImplicit false

namespace EntryTemplates.Number

/-- The quotient `n / d` times a power of ten, rounded to an integer. -/
def scaledQuotient (n d : Nat) (power : Int) : Nat :=
  roundedQuotient (n * Nat.pow 10 power.toNat) (d * Nat.pow 10 (-power).toNat)

/-- The first `decimals + 1` significant digits of the quotient of two natural numbers, rounded, and
the exponent of the first one. -/
def significant (n d decimals : Nat) : Nat × Int :=
  if n = 0 then (0, 0)
  else
    let e := pointPosition n d - 1
    let m := scaledQuotient n d (decimals - e)
    if Nat.pow 10 (decimals + 1) ≤ m then (scaledQuotient n d (decimals - e - 1), e + 1) else (m, e)

/-- The marks of numbers that are not finite, and the sign, numerator and denominator of those that
are. -/
def parts (x : Float) : Except (List Char) (Bool × Nat × Nat) :=
  match Binary.ofFloat x with
  | .nan => .error "nan".toList
  | .infinite negative => .error (if negative then "-inf".toList else "inf".toList)
  | .finite negative mantissa exponent _ =>
      .ok (negative, mantissa * Nat.pow 2 exponent.toNat, Nat.pow 2 (-exponent).toNat)

/-- A text with a minus sign before it, if there is to be one. -/
def signed (negative : Bool) (s : List Char) : List Char := if negative then '-' :: s else s

/-- Digits without zeros at the end, and without a point at the end. -/
def trimZeros (s : List Char) : List Char :=
  if s.contains '.' then
    ((s.reverse.dropWhile (· = '0')).dropWhile (· = '.')).reverse
  else s

/-- **A digit, a point, digits and an exponent.** -/
def exponentForm (x : Float) (decimals : Nat) : List Char :=
  match parts x with
  | .error s => s
  | .ok (negative, n, d) =>
      let (m, e) := significant n d decimals
      signed negative (pointText m decimals ++ 'e' :: exponentText e)

/-- A number with so many decimals. -/
def fixedForm (x : Float) (decimals : Nat) : List Char := (fixedText x decimals).toList

/-- **So many significant digits**, without zeros at the end. -/
def generalForm (x : Float) (digits : Nat) : List Char :=
  match parts x with
  | .error s => s
  | .ok (negative, n, d) =>
      let digits := max digits 1
      let (m, e) := significant n d (digits - 1)
      if -4 ≤ e ∧ e < digits then
        let decimals := (digits - 1 - e).toNat
        signed negative (trimZeros (pointText (scaledQuotient n d decimals) decimals))
      else
        signed negative (trimZeros (pointText m (digits - 1)) ++ 'e' :: exponentText e)

/-- An integer in a base. -/
def inBase (base : Nat) (i : Int) : List Char := signed (i < 0) (Nat.toDigits base i.natAbs)

/-- Digits with a mark after every third one from the end. -/
def grouped (mark : Char) (digits : List Char) : List Char :=
  let rec go : List Char → Nat → List Char
    | [], _ => []
    | c :: rest, k => if k = 3 then mark :: c :: go rest 1 else c :: go rest (k + 1)
  (go digits.reverse 0).reverse

end EntryTemplates.Number
