/-
**Filters on texts.**

Main definitions:

* `EntryTemplates.Render.titled`, `indented`, `truncated?`, `stripTags` — texts from texts;
* `EntryTemplates.Render.urlQuoted` — a text as a part of an address;
* `EntryTemplates.Render.sizeText` — a number of bytes in words;
* `EntryTemplates.Render.json` — a value as structured data.
-/

import EntryTemplates.Render.Method
import EntryTemplates.Text.Wrap

set_option relaxedAutoImplicit false
set_option autoImplicit false

namespace EntryTemplates.Render

/-! ### Words and lines -/

/-- What stands between words whose first letters become capitals. -/
def isTitleBreak (c : Char) : Bool := Text.isBlank c || c ∈ ['-', '(', '\x7b', '[', '<']

/-- A text with a capital at the start of each word and small letters behind it. -/
def titled (s : List Char) : List Char :=
  (s.splitBy fun a b => isTitleBreak a == isTitleBreak b).flatMap fun
    | [] => []
    | c :: rest => Text.upperChar c ++ Text.lower rest

/-- The number of words. -/
def wordCount (s : List Char) : Nat :=
  ((s.splitBy fun a b => Text.isWord a == Text.isWord b).filter fun run =>
    run.head?.any Text.isWord).length

/-- A text with its lines moved to the right: all but the first one, and empty ones only where
`blank` says so. -/
def indented (mark : List Char) (first blank : Bool) (s : List Char) : List Char :=
  let lines := Text.splitLines (s ++ ['\n'])
  let body :=
    if blank then Text.joinWith ('\n' :: mark) lines
    else
      match lines with
      | [] => []
      | head :: rest =>
          Text.joinWith ['\n'] (head :: rest.map fun l => if l.isEmpty then l else mark ++ l)
  if first then mark ++ body else body

/-- A text cut to `length` characters, the end mark among them; it may be longer by `leeway`. -/
def truncated (length : Nat) (killWords : Bool) (mark : List Char) (leeway : Nat)
    (s : List Char) : List Char :=
  if s.length ≤ length + leeway then s
  else
    let kept := s.take (length - mark.length)
    if killWords then kept ++ mark
    else ((Text.splitOnBack [' '] 1 kept).headD []) ++ mark

/-! ### Markup -/

/-- A text without what stands between an opening and a closing mark, one after another; `fuel`
exceeds the length of the text. -/
def dropBetween (start stop : List Char) : Nat → List Char → List Char
  | 0, s => s
  | fuel + 1, s =>
      match Text.splitAround? start s with
      | none => s
      | some (before, after) =>
          match Text.splitAround? stop after with
          | none => s
          | some (_, rest) => before ++ dropBetween start stop fuel rest

/-- The characters that names in markup stand for. -/
def markupNames : List (String × Char) :=
  [("amp", '&'), ("lt", '<'), ("gt", '>'), ("quot", '"'), ("apos", '\''), ("nbsp", '\u00a0'),
    ("copy", '\u00a9'), ("reg", '\u00ae'), ("hellip", '\u2026'), ("mdash", '\u2014'),
    ("ndash", '\u2013')]

/-- The character that a name or a number in markup stands for. -/
def markupChar? (name : List Char) : Option Char :=
  match name with
  | '#' :: 'x' :: digits => (Number.readInt? 16 digits).map fun i => Char.ofNat i.toNat
  | '#' :: digits => (Number.readInt? 10 digits).map fun i => Char.ofNat i.toNat
  | name => markupNames.lookup (String.ofList name)

/-- A text with the names of markup replaced by what they stand for; `fuel` exceeds its length. -/
def unescaped : Nat → List Char → List Char
  | 0, s => s
  | _ + 1, [] => []
  | fuel + 1, '&' :: rest =>
      match Text.splitAround? [';'] rest with
      | some (name, after) =>
          match markupChar? name with
          | some c => c :: unescaped fuel after
          | none => '&' :: unescaped fuel rest
      | none => '&' :: unescaped fuel rest
  | fuel + 1, c :: rest => c :: unescaped fuel rest

/-- A text without comments and tags, its white space reduced to single spaces. -/
def stripTags (s : List Char) : List Char :=
  let n := s.length + 1
  let plain := dropBetween ['<'] ['>'] n (dropBetween "<!--".toList "-->".toList n s)
  let spaced := Text.joinWith [' '] (Text.splitBlank plain.length plain)
  unescaped (spaced.length + 1) spaced

/-! ### Addresses -/

/-- A byte in an address: as itself, or by its number. -/
def urlByte (kept : List Char) (b : UInt8) : List Char :=
  let c := Char.ofNat b.toNat
  if c.isAlphanum || c ∈ ['_', '.', '-', '~'] || c ∈ kept then [c]
  else '%' :: (Text.hexDigits 2 b.toNat).map Char.toUpper

/-- A text as a part of an address; in a query spaces become plus signs. -/
def urlQuoted (isQuery : Bool) (s : String) : List Char :=
  s.toUTF8.toList.flatMap fun b =>
    if isQuery && b = 0x20 then ['+'] else urlByte (if isQuery then [] else ['/']) b

/-! ### Sizes -/

/-- Names of larger units. -/
def unitLetters : List Char := ['k', 'M', 'G', 'T', 'P', 'E', 'Z', 'Y']

/-- A number of bytes in the first unit that is large enough, from the power `power` of the base
on. -/
def sizeIn (x : Float) (isBinary : Bool) (base : Float) (power : Nat) : List Char → String
  | [] => ""
  | letter :: rest =>
      let unit := Float.ofInt (Int.pow (if isBinary then 1024 else 1000) power)
      if x < unit || rest.isEmpty then
        let letter := if isBinary then letter.toUpper else letter
        Number.fixedText (base * x / unit) 1 ++ " " ++ String.singleton letter
          ++ (if isBinary then "iB" else "B")
      else sizeIn x isBinary base (power + 1) rest

/-- **A number of bytes in words.** -/
def sizeText (x : Float) (isBinary : Bool) : String :=
  let base : Float := if isBinary then 1024 else 1000
  if x == 1 then "1 Byte"
  else if x < base then
    let whole := match Number.quotient? x with
      | some (n, d) => Int.tdiv n d
      | none => 0
    s!"{whole} Bytes"
  else sizeIn x isBinary base 2 unitLetters

/-! ### Structured data -/

/-- A code unit of a text, by its number. -/
def unitEscape (n : Nat) : List Char := '\\' :: 'u' :: Text.hexDigits 4 n

/-- A character between double quotes; what could be taken for markup is shown by its number. -/
def jsonChar (c : Char) : List Char :=
  let n := c.toNat
  if c = '"' then ['\\', '"']
  else if c = '\\' then ['\\', '\\']
  else if c = '\n' then ['\\', 'n']
  else if c = '\r' then ['\\', 'r']
  else if c = '\t' then ['\\', 't']
  else if n = 8 then ['\\', 'b']
  else if n = 12 then ['\\', 'f']
  else if c ∈ ['<', '>', '&', '\''] then unitEscape n
  else if 0x20 ≤ n ∧ n < 0x7F then [c]
  else if n < 0x10000 then unitEscape n
  else
    unitEscape (0xD800 + (n - 0x10000) / 0x400) ++ unitEscape (0xDC00 + (n - 0x10000) % 0x400)

/-- A text between double quotes. -/
def jsonText (s : String) : String :=
  String.ofList ('"' :: s.toList.flatMap jsonChar ++ ['"'])

/-- A floating-point number as structured data. -/
def jsonFloat (x : Float) : String :=
  if x.isNaN then "NaN" else if x.isInf then (if x < 0 then "-Infinity" else "Infinity")
  else Number.floatText x

/-- Inserts an entry before the first one with a greater key. -/
def insertEntry (typeOf : Nat → String) (e : Value × Value) :
    List (Value × Value) → Except Failure (List (Value × Value))
  | [] => .ok [e]
  | f :: rest => do
      if ← Value.compare typeOf .less e.1 f.1 then return e :: f :: rest
      else return f :: (← insertEntry typeOf e rest)

/-- Entries in the order of their keys. -/
def sortEntries (typeOf : Nat → String) : List (Value × Value) →
    Except Failure (List (Value × Value))
  | [] => .ok []
  | e :: rest => do insertEntry typeOf e (← sortEntries typeOf rest)

/-- Parts between brackets: on one line, or each on a line of its own at a depth. -/
def bracketed (left right : String) (indent : Option Nat) (depth : Nat) (parts : List String) :
    String :=
  if parts.isEmpty then left ++ right
  else
    match indent with
    | none => left ++ ", ".intercalate parts ++ right
    | some n =>
        let line (d : Nat) : String := "\n" ++ "".pushn ' ' (n * d)
        left ++ line (depth + 1) ++ ("," ++ line (depth + 1)).intercalate parts ++ line depth
          ++ right

/-- The text of a key. -/
def jsonKey (typeOf : Nat → String) : Value → Except Failure String
  | .text s _ => .ok (jsonText s)
  | .null => .ok "\"null\""
  | .bool b => .ok (if b then "\"true\"" else "\"false\"")
  | .int i => do return "\"" ++ (← (Number.intText i).mapError .tooLong) ++ "\""
  | .float x => .ok ("\"" ++ jsonFloat x ++ "\"")
  | v =>
      Value.wrongType ("keys must be str, int, float, bool or None, not " ++ v.typeName typeOf)

/-- **A value as structured data**; `fuel` bounds how deep it may lie. -/
def json (typeOf : Nat → String) (indent : Option Nat) : Nat → Nat → Value → Except Failure String
  | 0, _, _ => .error (.mishap .tooDeep "maximum recursion depth exceeded")
  | fuel + 1, depth, v =>
      match v with
      | .null => .ok "null"
      | .bool b => .ok (if b then "true" else "false")
      | .int i => (Number.intText i).mapError .tooLong
      | .float x => .ok (jsonFloat x)
      | .text s _ => .ok (jsonText s)
      | .list items | .tuple items => do
          let parts ← items.mapM (json typeOf indent fuel (depth + 1))
          return bracketed "[" "]" indent depth parts
      | .map entries => do
          let parts ← (← sortEntries typeOf entries).mapM fun (k, w) => do
            return (← jsonKey typeOf k) ++ ": " ++ (← json typeOf indent fuel (depth + 1) w)
          return bracketed "\x7b" "\x7d" indent depth parts
      | v =>
          Value.wrongType ("Object of type " ++ v.typeName typeOf ++ " is not JSON serializable")

end EntryTemplates.Render
