/-
**Reading numbers.**

White space may stand around a number and a single underscore between two digits.  A digit may
come from any script.

Main definitions:

* `EntryTemplates.Number.digitValue?` — the value of a digit or a letter;
* `EntryTemplates.Number.readInt?` — an integer in a base;
* `EntryTemplates.Number.readFloat?` — a floating-point number.
-/

import EntryTemplates.Text.Blank

set_option relaxedAutoImplicit false
set_option autoImplicit false

namespace EntryTemplates.Number

/-- The zeros of the decimal digits beyond ASCII; nine more digits follow each of them. -/
def digitZeros : List Nat :=
  [
    0x660, 0x6F0, 0x7C0, 0x966, 0x9E6, 0xA66, 0xAE6, 0xB66, 0xBE6, 0xC66, 0xCE6, 0xD66, 0xDE6,
    0xE50, 0xED0, 0xF20, 0x1040, 0x1090, 0x17E0, 0x1810, 0x1946, 0x19D0, 0x1A80, 0x1A90, 0x1B50,
    0x1BB0, 0x1C40, 0x1C50, 0xA620, 0xA8D0, 0xA900, 0xA9D0, 0xA9F0, 0xAA50, 0xABF0, 0xFF10,
    0x104A0, 0x10D30, 0x11066, 0x110F0, 0x11136, 0x111D0, 0x112F0, 0x11450, 0x114D0, 0x11650,
    0x116C0, 0x11730, 0x118E0, 0x11950, 0x11C50, 0x11D50, 0x11DA0, 0x16A60, 0x16AC0, 0x16B50,
    0x1D7CE, 0x1D7D8, 0x1D7E2, 0x1D7EC, 0x1D7F6, 0x1E140, 0x1E2F0, 0x1E950, 0x1FBF0
  ]

/-- The value of a decimal digit of any script. -/
def decimalValue? (c : Char) : Option Nat :=
  let n := c.toNat
  if n < 0x80 then (if c.isDigit then some (n - 0x30) else none)
  else (digitZeros.find? fun z => z ≤ n && n < z + 10).map fun z => n - z

/-- The value of a decimal digit, or of a letter from ten on. -/
def digitValue? (c : Char) : Option Nat :=
  if c.isLower then some (c.toNat - 0x61 + 10)
  else if c.isUpper then some (c.toNat - 0x41 + 10)
  else decimalValue? c

/-- The number that digits continue; `gap` tells that a digit must come next. -/
def continueDigits (base acc : Nat) (gap : Bool) : List Char → Option Nat
  | [] => if gap then none else some acc
  | c :: rest =>
      if c = '_' then (if gap then none else continueDigits base acc true rest)
      else
        match digitValue? c with
        | some d => if d < base then continueDigits base (acc * base + d) false rest else none
        | none => none

/-- A sign and what follows it. -/
def splitSign : List Char → Bool × List Char
  | '-' :: rest => (true, rest)
  | '+' :: rest => (false, rest)
  | s => (false, s)

/-- Digits without the mark of their base. -/
def dropBaseMark (base : Nat) (s : List Char) : List Char :=
  match s with
  | '0' :: mark :: rest =>
      let c := mark.toLower
      if (base = 16 ∧ c = 'x') ∨ (base = 8 ∧ c = 'o') ∨ (base = 2 ∧ c = 'b') then
        match rest with
        | '_' :: rest' => rest'
        | rest => rest
      else s
  | s => s

/-- **The integer that a text means in a base.** -/
def readInt? (base : Nat) (s : List Char) : Option Int :=
  let (negative, digits) := splitSign (Text.trim s)
  (continueDigits base 0 true (dropBaseMark base digits)).map fun n =>
    if negative then -(n : Int) else n

/-- The number of digits of the integer that a text means. -/
def countDigits (s : List Char) : Nat := s.countP fun c => (decimalValue? c).isSome

/-- The leading decimal digits of a text, as values. -/
def takeDigits : List Char → List Nat × List Char
  | [] => ([], [])
  | c :: rest =>
      match decimalValue? c with
      | some d =>
          let (ds, after) := takeDigits rest
          (d :: ds, after)
      | none => ([], c :: rest)

/-- The number that decimal digits write. -/
def ofDigits (ds : List Nat) : Nat := ds.foldl (fun acc d => acc * 10 + d) 0

/-- Whether every underscore of a text stands between two digits. -/
def underscoresFit : Option Char → List Char → Bool
  | _, [] => true
  | before, c :: rest =>
      let digit (d : Option Char) : Bool := (d.bind decimalValue?).isSome
      (c ≠ '_' || (digit before && digit rest.head?)) && underscoresFit (some c) rest

/-- The floating-point number nearest to `n * 10 ^ e`. -/
def scaled (n : Nat) (e : Int) : Float :=
  let size : Int := (Nat.toDigits 10 n).length + e
  if n = 0 ∨ size < -400 then 0.0
  else if 400 < size then 1.0 / 0.0
  else if e < 0 then Float.ofScientific n true e.natAbs
  else Float.ofScientific n false e.natAbs

/-- The number that digits, a point, digits and an exponent write, without a sign. -/
def readDecimal? (s : List Char) : Option Float :=
  let (whole, afterWhole) := takeDigits s
  let (fraction, afterFraction) :=
    match afterWhole with
    | '.' :: rest => takeDigits rest
    | rest => ([], rest)
  if whole.isEmpty && fraction.isEmpty then none
  else
    let n := ofDigits (whole ++ fraction)
    let point : Int := -(fraction.length : Int)
    match afterFraction with
    | [] => some (scaled n point)
    | e :: rest =>
        if e = 'e' ∨ e = 'E' then
          let (negative, digits) := splitSign rest
          match takeDigits digits with
          | (d :: ds, []) =>
              let k : Int := ofDigits (d :: ds)
              some (scaled n (point + if negative then -k else k))
          | _ => none
        else none

/-- **The floating-point number that a text means.** -/
def readFloat? (s : List Char) : Option Float :=
  let body := Text.trim s
  if !underscoresFit none body then none
  else
    let (negative, rest) := splitSign (body.filter (· ≠ '_'))
    let word := rest.map Char.toLower
    let value :=
      if word = "inf".toList ∨ word = "infinity".toList then some (1.0 / 0.0)
      else if word = "nan".toList then some (0.0 / 0.0)
      else readDecimal? rest
    value.map fun x => if negative then -x else x

end EntryTemplates.Number
