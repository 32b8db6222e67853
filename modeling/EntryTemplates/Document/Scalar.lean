/-
**The values of scalars.**

Main definitions:

* `EntryTemplates.Document.intValue`, `floatValue`, `boolValue`, `momentValue`, `binaryValue` — the
  value of a text under each tag.
-/

import EntryTemplates.Datum
import EntryTemplates.Document.Base64
import EntryTemplates.Document.Failure
import EntryTemplates.Document.Tag
import EntryTemplates.Number.Read
import EntryTemplates.Number.Written
import EntryTemplates.Text.Case

set_option relaxedAutoImplicit false
set_option autoImplicit false

namespace EntryTemplates.Document

/-! ### Numbers -/

/-- An integer written in a base. -/
def readInteger (base : Nat) (s : List Char) : Except Failure Int :=
  match Number.readInt? base s with
  | none => .error (.notInteger base (String.ofList s))
  | some i =>
      let count := Number.countDigits s
      if base = 10 ∧ Number.digitLimit < count then .error (.tooLong (.read count)) else .ok i

/-- The value of numbers below sixty, the last one counting ones. -/
def sixtieths (parts : List Int) : Int := parts.foldl (fun acc part => acc * 60 + part) 0

/-- Whether a text begins with a minus sign. -/
def isNegative (s : List Char) : Bool := s.head? = some '-'

/-- The absolute value of an integer, from its text without sign and underscores. -/
def magnitude (body : List Char) : Except Failure Int :=
  match body with
  | [] => .error .emptyNumber
  | ['0'] => .ok 0
  | '0' :: 'b' :: rest => readInteger 2 rest
  | '0' :: 'x' :: rest => readInteger 16 rest
  | '0' :: _ => readInteger 8 body
  | _ =>
      if ':' ∈ body then
        (Text.splitAtChar ':' body).mapM (readInteger 10) |>.map sixtieths
      else readInteger 10 body

/-- **The integer of a text.** -/
def intValue (s : List Char) : Except Failure Int :=
  match s.filter (· ≠ '_') with
  | [] => .error .emptyNumber
  | text => (magnitude (dropSign text)).map fun n => if isNegative text then -n else n

/-- A floating-point number in decimal. -/
def readDecimal (s : List Char) : Except Failure Float :=
  match Number.readFloat? s with
  | some x => .ok x
  | none => .error (.notDecimal (String.ofList s))

/-- The sum of numbers, each weighing sixty times as much as the one before it. -/
def weighted : Nat → Float → List Float → Except Failure Float
  | _, sum, [] => .ok sum
  | weight, sum, x :: rest =>
      if Nat.pow 2 1024 ≤ weight then .error .hugePlace
      else weighted (weight * 60) (sum + x * Float.ofNat weight) rest

/-- **The floating-point number of a text.** -/
def floatValue (s : List Char) : Except Failure Float := do
  match Text.lower (s.filter (· ≠ '_')) with
  | [] => .error .emptyNumber
  | text =>
      let body := dropSign text
      let x ←
        if body = ".inf".toList then .ok (1.0 / 0.0)
        else if body = ".nan".toList then .ok (0.0 / 0.0)
        else if ':' ∈ body then do
          let parts ← (Text.splitAtChar ':' body).mapM readDecimal
          weighted 1 0.0 parts.reverse
        else readDecimal body
      return if isNegative text then -x else x

/-! ### Truth values -/

/-- **The truth value of a text.** -/
def boolValue (s : List Char) : Except Failure Bool :=
  let word := String.ofList (Text.lower s)
  match booleanWords.lookup word with
  | some b => .ok b
  | none => .error (.notBoolean word)

/-! ### Dates and times -/

/-- Whether a year has a leap day. -/
def isLeap (year : Nat) : Bool := (year % 4 = 0 && year % 100 ≠ 0) || year % 400 = 0

/-- The number of days in a month. -/
def daysIn (year month : Nat) : Nat :=
  if month = 2 then (if isLeap year then 29 else 28)
  else if month ∈ [4, 6, 9, 11] then 30
  else 31

/-- The number that digits write. -/
def digitsValue (s : List Char) : Nat := s.foldl (fun acc d => acc * 10 + (d.toNat - 0x30)) 0

/-- Succeeds if a part of a date or time lies in its range. -/
def checkPart (part : CalendarPart) (fits : Bool) : Except Failure Unit :=
  if fits then .ok () else .error (.outOfRange part)

/-- Succeeds if a date exists. -/
def checkDate (year month day : Nat) : Except Failure Unit := do
  checkPart (.year year) (1 ≤ year)
  checkPart .month (1 ≤ month && month ≤ 12)
  checkPart .day (1 ≤ day && day ≤ daysIn year month)

/-- The number of millionths that the digits of a fraction write. -/
def millionths (digits : List Char) : Nat :=
  let ds := digits.take 6
  digitsValue (ds ++ List.replicate (6 - ds.length) '0')

/-- The distance from universal time in seconds, which must be less than a day. -/
def zoneValue : Option (Option (Bool × List Char × List Char)) → Except Failure (Option Int)
  | none => .ok none
  | some none => .ok (some 0)
  | some (some (negative, hours, minutes)) =>
      let n : Int := digitsValue hours * 3600 + digitsValue minutes * 60
      let n := if negative then -n else n
      if n.natAbs < 86400 then .ok (some n) else .error (.zoneTooFar n)

/-- **The date or moment of a text.** -/
def momentValue (s : List Char) : Except Failure Datum := do
  match momentText? (dropFinalLineFeed s) with
  | none => .error .notMoment
  | some m =>
      let year := digitsValue m.year
      let month := digitsValue m.month
      let day := digitsValue m.day
      match m.time with
      | none =>
          checkDate year month day
          return .date year month day
      | some t =>
          let offset ← zoneValue t.zone
          let hour := digitsValue t.hour
          let minute := digitsValue t.minute
          let second := digitsValue t.second
          checkDate year month day
          checkPart .hour (hour < 24)
          checkPart .minute (minute < 60)
          checkPart .second (second < 60)
          let microsecond := millionths t.fraction
          return .moment { year, month, day, hour, minute, second, microsecond, offset }

/-! ### Bytes -/

/-- **The bytes of a text**, which must be ASCII. -/
def binaryValue (s : List Char) : Except Failure (List UInt8) :=
  if s.all fun c => c.toNat < 0x80 then
    match Base64.decode? s with
    | some bytes => .ok bytes
    | none => .error (.malformed .value)
  else .error (.malformed .value)

end EntryTemplates.Document
