/-
**Data as settings, contexts and template files hold it.**

Main definitions:

* `EntryTemplates.Datum` — data values;
* `EntryTemplates.Datum.asText` — the text of a value, if it has one: a text is itself;
* `EntryTemplates.Datum.shown` — the value as it stands inside a collection: a text is quoted;
* `EntryTemplates.Datum.isTrue` — whether a value counts as true;
* `EntryTemplates.Datum.typeName` — the name of its type.
-/

import EntryTemplates.Number.Shortest
import EntryTemplates.Number.Written
import EntryTemplates.Text.Loose

set_option relaxedAutoImplicit false
set_option autoImplicit false

namespace EntryTemplates

/-- A moment: a day, a time of day and, if it has one, its distance from universal time in
seconds, where `named` tells that the distance was given as universal time itself. -/
structure Moment where
  year : Nat
  month : Nat
  day : Nat
  hour : Nat
  minute : Nat
  second : Nat
  microsecond : Nat
  offset : Option Int
  deriving DecidableEq, Repr

/-- Data values. -/
inductive Datum where
  | null
  | bool (b : Bool)
  | int (i : Int)
  | float (x : Float)
  | text (s : String)
  /-- A text in which a character is halved. -/
  | loose (t : Text.Loose)
  | bytes (bs : List UInt8)
  | date (year month day : Nat)
  | moment (m : Moment)
  | list (items : List Datum)
  | tuple (items : List Datum)
  | map (entries : List (Datum × Datum))
  | set (items : List Datum)
  /-- A collection that stands inside itself; `curly` tells a mapping from a list. -/
  | again (curly : Bool)
  deriving Inhabited, BEq

namespace Datum

/-- A text as data. -/
def ofLoose (t : Text.Loose) : Datum := if t.halves = [] then .text t.shape else .loose t

@[simp] theorem ofLoose_ofString (s : String) : ofLoose (.ofString s) = .text s := rfl

/-- A number with leading zeros up to `width`. -/
def padded (width n : Nat) : String :=
  let digits := Nat.toDigits 10 n
  String.ofList (List.replicate (width - digits.length) '0' ++ digits)

/-- A distance from universal time: sign, hours, minutes and, if there are any, seconds. -/
def offsetText (seconds : Int) : String :=
  let n := seconds.natAbs
  let base := padded 2 (n / 3600) ++ ":" ++ padded 2 (n / 60 % 60)
  let rest := if n % 60 = 0 then "" else ":" ++ padded 2 (n % 60)
  (if seconds < 0 then "-" else "+") ++ base ++ rest

/-- A moment as text. -/
def momentText (m : Moment) : String :=
  let day := padded 4 m.year ++ "-" ++ padded 2 m.month ++ "-" ++ padded 2 m.day
  let time := padded 2 m.hour ++ ":" ++ padded 2 m.minute ++ ":" ++ padded 2 m.second
  let fraction := if m.microsecond = 0 then "" else "." ++ padded 6 m.microsecond
  let zone := match m.offset with
    | some seconds => offsetText seconds
    | none => ""
  day ++ " " ++ time ++ fraction ++ zone

/-- A distance from universal time as it stands inside a collection. -/
def zoneShown (seconds : Int) : String :=
  if seconds = 0 then "datetime.timezone.utc"
  else
    let days := Int.fdiv seconds 86400
    let rest := Int.fmod seconds 86400
    let inner :=
      if days = 0 then s!"seconds={rest}"
      else if rest = 0 then s!"days={days}"
      else s!"days={days}, seconds={rest}"
    s!"datetime.timezone(datetime.timedelta({inner}))"

/-- A moment as it stands inside a collection: seconds and fraction only where they are not
zero. -/
def momentShown (m : Moment) : String :=
  let seconds :=
    if m.microsecond ≠ 0 then s!", {m.second}, {m.microsecond}"
    else if m.second ≠ 0 then s!", {m.second}"
    else ""
  let zone := match m.offset with
    | some distance => ", tzinfo=" ++ zoneShown distance
    | none => ""
  s!"datetime.datetime({m.year}, {m.month}, {m.day}, {m.hour}, {m.minute}" ++ seconds ++ zone ++ ")"

/-- A truth value as text. -/
def boolText (b : Bool) : String := if b then "True" else "False"

/-- A tuple of shown items: a single one is followed by a comma. -/
def tupleText (items : List String) : String :=
  match items with
  | [one] => "(" ++ one ++ ",)"
  | items => "(" ++ ", ".intercalate items ++ ")"

/-- A set of shown items. -/
def setText (items : List String) : String :=
  if items.isEmpty then "set()" else "\x7b" ++ ", ".intercalate items ++ "\x7d"

mutual

/-- A value as it stands inside a collection. -/
def shown : Datum → Except Number.TooLong String
  | .null => .ok "None"
  | .bool b => .ok (boolText b)
  | .int i => Number.intText i
  | .float x => .ok (Number.floatText x)
  | .text s => .ok (Text.quotedString s)
  | .loose t => .ok t.quoted
  | .bytes bs => .ok (String.ofList (Text.quotedBytes bs))
  | .date year month day => .ok s!"datetime.date({year}, {month}, {day})"
  | .moment m => .ok (momentShown m)
  | .list items => do return "[" ++ ", ".intercalate (← shownAll items) ++ "]"
  | .tuple items => do return tupleText (← shownAll items)
  | .map entries => do return "\x7b" ++ ", ".intercalate (← shownEntries entries) ++ "\x7d"
  | .set items => do return setText (← shownAll items)
  | .again curly => .ok (if curly then "\x7b...\x7d" else "[...]")

/-- Values as they stand inside a collection. -/
def shownAll : List Datum → Except Number.TooLong (List String)
  | [] => .ok []
  | d :: ds => do return (← shown d) :: (← shownAll ds)

/-- Entries of a mapping: a key, a colon, a value. -/
def shownEntries : List (Datum × Datum) → Except Number.TooLong (List String)
  | [] => .ok []
  | (k, v) :: rest => do return ((← shown k) ++ ": " ++ (← shown v)) :: (← shownEntries rest)

end

/-- **The text of a value**; a number of too many digits has none, wherever it stands.  Where a
character is halved the text shows U+FFFD. -/
def asText : Datum → Except Number.TooLong String
  | .text s => .ok s
  | .loose t => .ok t.shape
  | .date year month day => .ok (padded 4 year ++ "-" ++ padded 2 month ++ "-" ++ padded 2 day)
  | .moment m => .ok (momentText m)
  | d => shown d

/-- Whether a value counts as true: empty texts and collections, zeros and null do not. -/
def isTrue : Datum → Bool
  | .null => false
  | .bool b => b
  | .int i => i ≠ 0
  | .float x => x != 0
  | .text s => s ≠ ""
  | .loose t => t.shape ≠ ""
  | .bytes bs => !bs.isEmpty
  | .date .. => true
  | .moment _ => true
  | .list items => !items.isEmpty
  | .tuple items => !items.isEmpty
  | .map entries => !entries.isEmpty
  | .set items => !items.isEmpty
  | .again _ => true

/-- The name of a value's type. -/
def typeName : Datum → String
  | .null => "NoneType"
  | .bool _ => "bool"
  | .int _ => "int"
  | .float _ => "float"
  | .text _ => "str"
  | .loose _ => "str"
  | .bytes _ => "bytes"
  | .date .. => "date"
  | .moment _ => "datetime"
  | .list _ => "list"
  | .tuple _ => "tuple"
  | .map _ => "dict"
  | .set _ => "set"
  | .again curly => if curly then "dict" else "list"

end Datum

end EntryTemplates
