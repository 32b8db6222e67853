/-
**The shortest decimal text of a floating-point number.**

A finite number is an integer times a power of two, and so are the ends of the interval of reals
that round to it.  Its shortest decimal is looked for on the grids of one, two, … seventeen
digits: on each grid the two neighbours of the number are tried, the first grid that has a
neighbour inside the interval wins, and of two such neighbours the nearer one.  All arithmetic is
on natural numbers.

Main definitions:

* `EntryTemplates.Number.Binary` — what the bits of a floating-point number say;
* `EntryTemplates.Number.shortest` — the digits and the decimal exponent of a finite number;
* `EntryTemplates.Number.floatText` — the text of a floating-point number.
-/

set_option relaxedAutoImplicit false
set_option autoImplicit false

namespace EntryTemplates.Number

/-- What the bits of a floating-point number say. -/
inductive Binary where
  /-- Not a number. -/
  | nan
  /-- One of the infinities. -/
  | infinite (negative : Bool)
  /-- `mantissa * 2 ^ exponent`; `boundary` tells that the next smaller number is only half as far
  away as the next greater one. -/
  | finite (negative : Bool) (mantissa : Nat) (exponent : Int) (boundary : Bool)
  deriving DecidableEq, Repr

/-- The reading of 64 bits: a sign, eleven bits of exponent, fifty-two bits of fraction. -/
def Binary.ofBits (bits : Nat) : Binary :=
  let negative := bits / Nat.pow 2 63 % 2 == 1
  let exponent : Nat := bits / Nat.pow 2 52 % 2048
  let fraction : Nat := bits % Nat.pow 2 52
  if exponent = 2047 then
    if fraction = 0 then .infinite negative else .nan
  else if exponent = 0 then .finite negative fraction (-1074) false
  else .finite negative (fraction + Nat.pow 2 52) ((exponent : Int) - 1075) (fraction == 0 && 1 < exponent)

/-- The reading of a floating-point number. -/
def Binary.ofFloat (x : Float) : Binary := .ofBits x.toBits.toNat

/-- The number of decimal digits of a natural number, with one for zero. -/
def digitCount (n : Nat) : Nat := (Nat.toDigits 10 n).length

/-- The least `j`, counted from `j`, such that `num * 10 ^ j` reaches `den`. -/
def leadingZeros (num den : Nat) : Nat → Nat → Nat
  | 0, j => j
  | fuel + 1, j => if den ≤ num * Nat.pow 10 j then j else leadingZeros num den fuel (j + 1)

/-- Where the decimal point of `num / den` stands: the number of digits before it, or minus the
number of zeros after it. -/
def pointPosition (num den : Nat) : Int :=
  if den ≤ num then digitCount (num / den) else 1 - (leadingZeros num den 400 1 : Int)

/-- The interval of a number against a decimal grid of step `10 ^ power`.  All quantities are
multiplied by four and by common powers, so that they are natural numbers. -/
structure Grid where
  /-- One step of the grid. -/
  step : Nat
  /-- The number itself. -/
  center : Nat
  /-- The lower end of the interval. -/
  low : Nat
  /-- The upper end of the interval. -/
  high : Nat
  /-- Whether the ends belong to the interval. -/
  closed : Bool

/-- The grid of step `10 ^ power` around `mantissa * 2 ^ exponent`. -/
def gridAt (mantissa : Nat) (exponent : Int) (boundary : Bool) (power : Int) : Grid :=
  let up := Nat.pow 2 (exponent - 2).toNat * Nat.pow 10 (-power).toNat
  { step := Nat.pow 2 (2 - exponent).toNat * Nat.pow 10 power.toNat
    center := 4 * mantissa * up
    low := (4 * mantissa - if boundary then 1 else 2) * up
    high := (4 * mantissa + 2) * up
    closed := mantissa % 2 == 0 }

/-- Whether the grid point `d` rounds to the number. -/
def Grid.holds (g : Grid) (d : Nat) : Bool :=
  let x := d * g.step
  if g.closed then g.low ≤ x && x ≤ g.high else g.low < x && x < g.high

/-- The neighbour of the number on the grid that rounds to it, the nearer one of two; a tie goes
to the even digit. -/
def Grid.hit? (g : Grid) : Option Nat :=
  let d := g.center / g.step
  let below := g.center - d * g.step
  let above := (d + 1) * g.step - g.center
  match g.holds d, g.holds (d + 1) with
  | true, true =>
      if below < above then some d
      else if above < below then some (d + 1)
      else if d % 2 = 0 then some d else some (d + 1)
  | true, false => some d
  | false, true => some (d + 1)
  | false, false => none

/-- The first grid that has a hit, from `count` digits on. -/
def shortestFrom (mantissa : Nat) (exponent : Int) (boundary : Bool) (point : Int) :
    Nat → Nat → Nat × Int
  | 0, _ => (0, 0)
  | fuel + 1, count =>
      let power := point - count
      match (gridAt mantissa exponent boundary power).hit? with
      | some d => (d, power)
      | none => shortestFrom mantissa exponent boundary point fuel (count + 1)

/-- A decimal without trailing zeros in its digits. -/
def dropZeros : Nat → Nat × Int → Nat × Int
  | 0, d => d
  | fuel + 1, (d, power) =>
      if d ≠ 0 ∧ d % 10 = 0 then dropZeros fuel (d / 10, power + 1) else (d, power)

/-- **The shortest decimal** `(d, e)`, meaning `d * 10 ^ e`, that reads back as the positive
number `mantissa * 2 ^ exponent`. -/
def shortest (mantissa : Nat) (exponent : Int) (boundary : Bool) : Nat × Int :=
  let point := pointPosition (mantissa * Nat.pow 2 exponent.toNat) (Nat.pow 2 (-exponent).toNat)
  dropZeros 20 (shortestFrom mantissa exponent boundary point 20 1)

/-- Zeros in a row. -/
def zeros (n : Nat) : List Char := List.replicate n '0'

/-- An exponent with its sign and at least two digits. -/
def exponentText (e : Int) : List Char :=
  let digits := Nat.toDigits 10 e.natAbs
  (if e < 0 then '-' else '+') :: zeros (2 - digits.length) ++ digits

/-- The text of `d * 10 ^ e`: positional with a decimal point while the point stands at most
sixteen digits after and three zeros before the first digit, with an exponent otherwise. -/
def decimalText (d : Nat) (e : Int) : List Char :=
  let digits := Nat.toDigits 10 d
  let point : Int := digits.length + e
  if -4 < point ∧ point ≤ 16 then
    if point ≤ 0 then '0' :: '.' :: zeros (-point).toNat ++ digits
    else if digits.length ≤ point then digits ++ zeros e.toNat ++ ['.', '0']
    else digits.take point.toNat ++ '.' :: digits.drop point.toNat
  else
    digits.take 1 ++ (if digits.length = 1 then [] else '.' :: digits.drop 1)
      ++ 'e' :: exponentText (point - 1)

/-- The text of what the bits of a number say. -/
def Binary.text : Binary → List Char
  | .nan => "nan".toList
  | .infinite negative => if negative then "-inf".toList else "inf".toList
  | .finite negative mantissa exponent boundary =>
      let body :=
        if mantissa = 0 then "0.0".toList
        else
          let (d, e) := shortest mantissa exponent boundary
          decimalText d e
      if negative then '-' :: body else body

/-- **The text of a floating-point number.** -/
def floatText (x : Float) : String := String.ofList (Binary.ofFloat x).text

end EntryTemplates.Number
