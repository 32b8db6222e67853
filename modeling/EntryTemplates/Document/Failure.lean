/-
**Why a YAML document cannot be read.**

Of a malformed document only the stage is told at which it turned out so, not what was found there.

Main definitions:

* `EntryTemplates.Document.Malformed` — the stages at which a document can turn out malformed;
* `EntryTemplates.Document.Failure` — malformed documents, and scalars without a value;
* `EntryTemplates.Document.Failure.message` — the report;
* `EntryTemplates.Document.Failure.isFatal` — whether loading stops altogether.
-/

import EntryTemplates.Number.Written
import EntryTemplates.Text.Quoted

set_option relaxedAutoImplicit false
set_option autoImplicit false

namespace EntryTemplates.Document

/-- The stages at which a document can turn out malformed. -/
inductive Malformed where
  /-- A character that no document may hold. -/
  | character
  /-- No token can be read; `atEnd` tells that the text has ended. -/
  | token (atEnd : Bool)
  /-- The tokens do not form a document. -/
  | grammar
  /-- Anchors, aliases or the number of documents are wrong. -/
  | composition
  /-- A value does not suit its tag. -/
  | value
  deriving DecidableEq, Repr

/-- What reports call a stage. -/
def Malformed.label : Malformed → String
  | .character => "ReaderError"
  | .token _ => "ScannerError"
  | .grammar => "ParserError"
  | .composition => "ComposerError"
  | .value => "ConstructorError"

/-- The parts of a date or time that have a range of their own. -/
inductive CalendarPart where
  | year (n : Nat)
  | month
  | day
  | hour
  | minute
  | second
  deriving DecidableEq, Repr

/-- The report on a part out of its range. -/
def CalendarPart.message : CalendarPart → String
  | .year n => s!"year {n} is out of range"
  | .month => "month must be in 1..12"
  | .day => "day is out of range for month"
  | .hour => "hour must be in 0..23"
  | .minute => "minute must be in 0..59"
  | .second => "second must be in 0..59"

/-- Why a YAML document cannot be read. -/
inductive Failure where
  /-- It is malformed. -/
  | malformed (stage : Malformed)
  /-- An escape names a code above the last character. -/
  | noCharacter
  /-- An escape names a code that no 32-bit integer holds. -/
  | hugeCode
  /-- A number without digits. -/
  | emptyNumber
  /-- A text that is no integer. -/
  | notInteger (base : Nat) (text : String)
  /-- A text that is no floating-point number. -/
  | notDecimal (text : String)
  /-- A number of too many digits. -/
  | tooLong (n : Number.TooLong)
  /-- A sum of sixtieths beyond the floating-point numbers. -/
  | hugePlace
  /-- A text that is no truth value. -/
  | notBoolean (text : String)
  /-- A text that is no date. -/
  | notMoment
  /-- A date that was expected to be a text. -/
  | momentOfMapping
  /-- A date or time out of its range. -/
  | outOfRange (part : CalendarPart)
  /-- A distance from universal time of a day or more. -/
  | zoneTooFar (seconds : Int)
  deriving DecidableEq, Repr

/-- A distance of time in days and seconds. -/
def distanceText (seconds : Int) : String :=
  let days := Int.fdiv seconds 86400
  let rest := Int.fmod seconds 86400
  let inner :=
    if rest = 0 then s!"days={days}"
    else if days = 0 then s!"seconds={rest}"
    else s!"days={days}, seconds={rest}"
  s!"datetime.timedelta({inner})"

namespace Failure

/-- The report on a document that cannot be read. -/
def message : Failure → String
  | .malformed stage => "<" ++ stage.label ++ ">"
  | .noCharacter => "chr() arg not in range(0x110000)"
  | .hugeCode => "Python int too large to convert to C int"
  | .emptyNumber => "string index out of range"
  | .notInteger base text =>
      s!"invalid literal for int() with base {base}: "
        ++ String.ofList ((Text.quoted text.toList).take 200)
  | .notDecimal text => "could not convert string to float: " ++ Text.quotedString text
  | .tooLong n => n.message
  | .hugePlace => "int too large to convert to float"
  | .notBoolean text => Text.quotedString text
  | .notMoment => "'NoneType' object has no attribute 'groupdict'"
  | .momentOfMapping => "expected string or bytes-like object, got 'list'"
  | .outOfRange part => part.message
  | .zoneTooFar seconds =>
      "offset must be a timedelta strictly between -timedelta(hours=24) and timedelta(hours=24), "
        ++ "not " ++ distanceText seconds

/-- Whether a failure stops the loading of all files, and not only that of its own. -/
def isFatal : Failure → Bool
  | .hugeCode => true
  | .emptyNumber => true
  | .hugePlace => true
  | .notMoment => true
  | _ => false

end Failure

end EntryTemplates.Document
