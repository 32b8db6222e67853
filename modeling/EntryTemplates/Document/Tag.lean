/-
**The tags of nodes, and how the text of a plain scalar chooses one.**

Main definitions:

* `EntryTemplates.Document.Tag` — the tags that have a meaning, and others;
* `EntryTemplates.Document.Tag.ofString` — the tag of a name;
* `EntryTemplates.Document.MomentText` — the parts of a date or time;
* `EntryTemplates.Document.resolve` — the tag that the text of a plain scalar chooses.
-/

import EntryTemplates.Text.Search

set_option relaxedAutoImplicit false
set_option autoImplicit false

namespace EntryTemplates.Document

/-- The tags that have a meaning, and others. -/
inductive Tag where
  | null
  | bool
  | int
  | float
  | binary
  | timestamp
  | orderedMap
  | pairs
  | set
  | str
  | seq
  | map
  /-- Marks the key whose value is merged into the mapping around it. -/
  | merge
  /-- Marks the key whose value stands for the mapping. -/
  | value
  | other
  deriving DecidableEq, Repr, Inhabited

/-- The tag of a full name. -/
def Tag.ofString (s : String) : Tag :=
  match Text.dropPrefix? "tag:yaml.org,2002:".toList s.toList with
  | none => .other
  | some rest =>
      match String.ofList rest with
      | "null" => .null
      | "bool" => .bool
      | "int" => .int
      | "float" => .float
      | "binary" => .binary
      | "timestamp" => .timestamp
      | "omap" => .orderedMap
      | "pairs" => .pairs
      | "set" => .set
      | "str" => .str
      | "seq" => .seq
      | "map" => .map
      | "merge" => .merge
      | "value" => .value
      | _ => .other

/-! ### Shapes of numbers -/

/-- A text without a sign in front. -/
def dropSign : List Char → List Char
  | '-' :: rest => rest
  | '+' :: rest => rest
  | s => s

/-- A digit or an underscore. -/
def isDigitOrGap (c : Char) : Bool := c.isDigit || c = '_'

/-- A digit followed by digits and underscores. -/
def isDigits : List Char → Bool
  | c :: rest => c.isDigit && rest.all isDigitOrGap
  | [] => false

/-- One or two digits that write a number below sixty. -/
def isSixtieth : List Char → Bool
  | [a] => a.isDigit
  | [a, b] => a.isDigit && a.toNat ≤ '5'.toNat && b.isDigit
  | _ => false

/-- Digits, and numbers below sixty after colons. -/
def isSexagesimal (s : List Char) : Bool :=
  match Text.splitAtChar ':' s with
  | first :: second :: more => isDigits first && (second :: more).all isSixtieth
  | _ => false

/-- Nothing, or an exponent with a sign. -/
def isExponentOrNothing : List Char → Bool
  | [] => true
  | e :: sign :: digits =>
      (e = 'e' || e = 'E') && (sign = '-' || sign = '+') && !digits.isEmpty
        && digits.all Char.isDigit
  | _ => false

/-- The shape of a floating-point number. -/
def isFloatText (s : List Char) : Bool :=
  let body := dropSign s
  let (whole, rest) := body.span (· ≠ '.')
  let fraction := rest.drop 1
  let (places, exponent) := fraction.span isDigitOrGap
  !rest.isEmpty
    && ((isDigits whole && isExponentOrNothing exponent)
      || (s.head? = some '.' && isDigits places && isExponentOrNothing exponent)
      || (isSexagesimal whole && fraction.all isDigitOrGap)
      || (whole.isEmpty && fraction ∈ ["inf".toList, "Inf".toList, "INF".toList])
      || s ∈ [".nan".toList, ".NaN".toList, ".NAN".toList])

/-- The shape of an integer. -/
def isIntText (s : List Char) : Bool :=
  match dropSign s with
  | '0' :: 'b' :: rest => !rest.isEmpty && rest.all fun c => c = '0' || c = '1' || c = '_'
  | '0' :: 'x' :: rest =>
      !rest.isEmpty
        && rest.all fun c => isDigitOrGap c || ('a' ≤ c && c ≤ 'f') || ('A' ≤ c && c ≤ 'F')
  | '0' :: rest => rest.all fun c => ('0' ≤ c && c ≤ '7') || c = '_'
  | body => isDigits body || isSexagesimal body

/-! ### Dates and times -/

/-- The time of day and the distance from universal time, as digits. -/
structure TimeText where
  hour : List Char
  minute : List Char
  second : List Char
  fraction : List Char
  /-- Nothing, universal time, or a sign with hours and minutes. -/
  zone : Option (Option (Bool × List Char × List Char))
  deriving DecidableEq, Repr

/-- The parts of a date or time, as digits. -/
structure MomentText where
  year : List Char
  month : List Char
  day : List Char
  time : Option TimeText
  deriving DecidableEq, Repr

/-- Exactly so many digits, and the rest. -/
def takeDigits? : Nat → List Char → Option (List Char × List Char)
  | 0, s => some ([], s)
  | n + 1, c :: rest =>
      if c.isDigit then (takeDigits? n rest).map fun (ds, after) => (c :: ds, after) else none
  | _ + 1, [] => none

/-- Two digits or one, and the rest. -/
def oneOrTwoDigits? (s : List Char) : Option (List Char × List Char) :=
  (takeDigits? 2 s).or (takeDigits? 1 s)

/-- What follows a character. -/
def after? (mark : Char) : List Char → Option (List Char)
  | c :: rest => if c = mark then some rest else none
  | [] => none

/-- Whether a character is a blank or a tab. -/
def isGap (c : Char) : Bool := c = ' ' || c = '\t'

/-- A distance from universal time, which ends the text. -/
def zoneText? (s : List Char) : Option (Option (Option (Bool × List Char × List Char))) :=
  match s, s.dropWhile isGap with
  | [], _ => some none
  | _, ['Z'] => some (some none)
  | _, sign :: rest =>
      if sign = '-' ∨ sign = '+' then do
        let (hours, rest) ← oneOrTwoDigits? rest
        match rest with
        | [] => some (some (some (sign = '-', hours, [])))
        | _ =>
            let (minutes, rest) ← takeDigits? 2 (← after? ':' rest)
            if rest = [] then some (some (some (sign = '-', hours, minutes))) else none
      else none
  | _, [] => none

/-- A time of day, which ends the text. -/
def timeText? (s : List Char) : Option TimeText := do
  let (hour, rest) ← oneOrTwoDigits? s
  let (minute, rest) ← takeDigits? 2 (← after? ':' rest)
  let (second, rest) ← takeDigits? 2 (← after? ':' rest)
  let (fraction, rest) := match rest with
    | '.' :: more => more.span Char.isDigit
    | rest => ([], rest)
  let zone ← zoneText? rest
  some { hour, minute, second, fraction, zone }

/-- The parts of a date or time. -/
def momentText? (s : List Char) : Option MomentText := do
  let (year, rest) ← takeDigits? 4 s
  let (month, rest) ← oneOrTwoDigits? (← after? '-' rest)
  let (day, rest) ← oneOrTwoDigits? (← after? '-' rest)
  match rest with
  | [] => some { year, month, day, time := none }
  | c :: more =>
      if c = 'T' ∨ c = 't' then some { year, month, day, time := some (← timeText? more) }
      else if isGap c then
        some { year, month, day, time := some (← timeText? (more.dropWhile isGap)) }
      else none

/-- The shape of a date or time: without a time of day, month and day have two digits. -/
def isMomentText (s : List Char) : Bool :=
  match momentText? s with
  | some m => m.time.isSome || (m.month.length = 2 && m.day.length = 2)
  | none => false

/-! ### Resolution -/

/-- The words that mean a truth value, in lower case. -/
def booleanWords : List (String × Bool) :=
  [("yes", true), ("no", false), ("true", true), ("false", false), ("on", true), ("off", false)]

/-- A word in lower case, in upper case or with a capital. -/
def spellings (word : String) : List String := [word, word.capitalize, word.toUpper]

/-- A text without a line feed at its end. -/
def dropFinalLineFeed (s : List Char) : List Char :=
  if s.getLast? = some '\n' then s.dropLast else s

/-- **The tag that the text of a plain scalar chooses.** -/
def resolve (s : String) : Tag :=
  let text := dropFinalLineFeed s.toList
  let body := String.ofList text
  if s = "" then .null
  else if text = [] then .str
  else if booleanWords.any fun word => body ∈ spellings word.1 then .bool
  else if isFloatText text then .float
  else if isIntText text then .int
  else if body = "<<" then .merge
  else if body = "~" ∨ body ∈ spellings "null" then .null
  else if isMomentText text then .timestamp
  else if body = "=" then .value
  else if body ∈ ["!", "&", "*"] then .other
  else .str

end EntryTemplates.Document
