/-
**Names of styles.**

A style is named by words: attributes such as `bold`, which `not` takes back, a colour, a colour
after `on` for the ground, an address after `link`.  Names of the same style have one normal form;
a name that is no style stands for itself in lower case.  The parts of a colour are read as numbers,
and where one of them is none the name is not read to its end.

Main definitions:

* `EntryTemplates.Console.NoNumber` — why a part of a colour is no number;
* `EntryTemplates.Console.Style` — what the words say;
* `EntryTemplates.Console.Style.read` — the style that words name;
* `EntryTemplates.Console.Style.normalName` — the normal form of a name.
-/

import EntryTemplates.Console.ColourTable
import EntryTemplates.Number.Read
import EntryTemplates.Number.Written
import EntryTemplates.Text.Pieces

set_option relaxedAutoImplicit false
set_option autoImplicit false

namespace EntryTemplates.Console

/-- Why a part of a colour is no number. -/
inductive NoNumber where
  | empty
  | tooLong (n : Number.TooLong)
  deriving DecidableEq, Repr, Inhabited

/-- The report on a part of a colour that is no number. -/
def NoNumber.message : NoNumber → String
  | .empty => "invalid literal for int() with base 10: ''"
  | .tooLong n => n.message

/-- What the words of a name say. -/
structure Style where
  /-- Attributes that are set or taken back, the last word on each first. -/
  attributes : List (String × Bool)
  colour : Option String
  ground : Option String
  address : Option String
  deriving DecidableEq, Repr

namespace Style

/-- The style of no words. -/
def plain : Style := ⟨[], none, none, none⟩

/-- The attributes in the order of the normal form. -/
def attributeNames : List String :=
  ["bold", "dim", "italic", "underline", "blink", "blink2", "reverse", "conceal", "strike",
    "underline2", "frame", "encircle", "overline"]

/-- The short names of attributes. -/
def shortNames : List (String × String) :=
  [("d", "dim"), ("b", "bold"), ("i", "italic"), ("u", "underline"), ("r", "reverse"),
    ("c", "conceal"), ("s", "strike"), ("uu", "underline2"), ("o", "overline")]

/-- The attribute that a word names. -/
def attribute? (word : String) : Option String :=
  if word ∈ attributeNames then some word else shortNames.lookup word

/-- A decimal number below 256. -/
def isByte (s : List Char) : Bool :=
  !s.isEmpty && s.all Char.isDigit && s.foldl (fun n c => n * 10 + (c.toNat - 48)) 0 < 256

/-- What stands between `start` and a closing parenthesis at the end. -/
def enclosed? (start : String) (s : List Char) : Option (List Char) :=
  match (Text.dropPrefix? start.toList s).map List.reverse with
  | some (')' :: inner) => some inner.reverse
  | _ => none

/-- The value of a part of a colour. -/
def partValue (digits : List Char) : Except NoNumber Nat :=
  if digits.isEmpty then .error .empty
  else if Number.digitLimit < digits.length then .error (.tooLong (.read digits.length))
  else .ok (Number.ofDigits (digits.filterMap Number.decimalValue?))

/-- Whether what stands in parentheses names a colour by its three parts. -/
def areParts (inner : List Char) : Except NoNumber Bool :=
  let parts := Text.splitAtChar ',' inner
  if inner.isEmpty || parts.length ≠ 3
      || inner.any (fun c => c ≠ ',' && (Number.decimalValue? c).isNone) then .ok false
  else (parts.mapM partValue).map fun values => values.all (· ≤ 255)

/-- Whether a word in lower case names a colour: by a name, by six hexadecimal digits, by a number
of a palette, or by its three parts. -/
def isColour (word : String) : Except NoNumber Bool :=
  let s := word.toList
  if word = "default" || colourNames.contains word
    || (match s with
        | '#' :: digits =>
            digits.length = 6 && digits.all fun c => c.isDigit || ('a' ≤ c && c ≤ 'f')
        | _ => false)
    || ((enclosed? "color(" s).any fun inner => inner.length ≤ 3 && isByte inner) then .ok true
  else
    match enclosed? "rgb(" s with
    | some inner => areParts inner
    | none => .ok false

/-- A word in lower case. -/
def lowerWord (w : List Char) : String := String.ofList (Text.lower w)

/-- What words say after the style `s`, if they make sense. -/
def readAfter (s : Style) : List (List Char) → Except NoNumber (Option Style)
  | [] => .ok s
  | [w] =>
      match attribute? (lowerWord w) with
      | some a => .ok (some { s with attributes := (a, true) :: s.attributes })
      | none => do
          if ← isColour (lowerWord w) then return some { s with colour := lowerWord w }
          return none
  | w :: v :: rest =>
      if lowerWord w = "on" then do
        if ← isColour (lowerWord v) then readAfter { s with ground := lowerWord v } rest
        else return none
      else if lowerWord w = "not" then
        match attribute? (String.ofList v) with
        | some a => readAfter { s with attributes := (a, false) :: s.attributes } rest
        | none => .ok none
      else if lowerWord w = "link" then readAfter { s with address := String.ofList v } rest
      else
        match attribute? (lowerWord w) with
        | some a => readAfter { s with attributes := (a, true) :: s.attributes } (v :: rest)
        | none => do
            if ← isColour (lowerWord w) then readAfter { s with colour := lowerWord w } (v :: rest)
            else return none

/-- **The style that a text names**, if it names one. -/
def read (name : List Char) : Except NoNumber (Option Style) :=
  if Text.trim name = "none".toList then .ok (some plain)
  else readAfter plain (Text.splitBlank name.length name)

/-- The words of the normal form. -/
def words (s : Style) : List String :=
  (attributeNames.filterMap fun a =>
      (s.attributes.lookup a).map fun isSet => if isSet then a else "not " ++ a)
    ++ s.colour.toList
    ++ (s.ground.map fun colour => "on " ++ colour).toList
    ++ (s.address.map fun address => "link " ++ address).toList

/-- The normal form of a style. -/
def text (s : Style) : String := if s.words.isEmpty then "none" else " ".intercalate s.words

/-- **The normal form of a name.** -/
def normalName (name : List Char) : Except NoNumber String :=
  (read name).map fun
    | some s => s.text
    | none => String.ofList (Text.lower (Text.trim name))

end Style

end EntryTemplates.Console
