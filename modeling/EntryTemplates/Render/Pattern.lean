/-
**Texts with places for values.**

Two kinds of places are known: `%s`, `%d`, `%(name)s` and the like, and braces with a name or a
number between them.

Main definitions:

* `EntryTemplates.Render.fillPercent` — a text with its percent places filled;
* `EntryTemplates.Render.fillBraces` — a text with its braces filled.
-/

import EntryTemplates.Number.Format
import EntryTemplates.Render.Part
import EntryTemplates.Text.Pieces
import EntryTemplates.Text.Lines
import EntryTemplates.Text.Word

set_option relaxedAutoImplicit false
set_option autoImplicit false

namespace EntryTemplates.Render

/-! ### Percent places -/

/-- What stands between the percent sign of a place and its letter. -/
structure Slot where
  key : Option String
  flags : List Char
  width : Option Int
  decimals : Option Int

/-- The values that are still to be put into places. -/
structure Supply where
  /-- The values in order. -/
  queue : List Value
  /-- All values, where they are looked up by name. -/
  source : Value
  /-- Whether values may be left over. -/
  mayRemain : Bool

/-- The next value. -/
def Supply.next : StateT Supply Eval Value := do
  match (← get).queue with
  | v :: rest =>
      modify fun s => { s with queue := rest }
      return v
  | [] => Eval.wrongType "not enough arguments for format string"

/-- A natural number that a text begins with, or a star for the next value. -/
def takeNumber (s : List Char) : StateT Supply Eval (Option Int × List Char) := do
  match s with
  | '*' :: rest =>
      match (← Supply.next).int? with
      | some i => return (some i, rest)
      | none => Eval.wrongType "* wants int"
  | s =>
      let digits := s.takeWhile Char.isDigit
      if digits.isEmpty then return (none, s)
      else return ((String.ofList digits).toNat?.map Int.ofNat, s.drop digits.length)

/-- A name in parentheses that a place begins with. -/
def takeKey (s : List Char) : StateT Supply Eval (Option String × List Char) := do
  match s with
  | '(' :: rest =>
      match Text.splitAround? [')'] rest with
      | some (key, after) => return (some (String.ofList key), after)
      | none => Eval.fail .wrongValue "incomplete format key"
  | s => return (none, s)

/-- Digits that have at least `decimals` places. -/
def withDigits (decimals : Option Int) (digits : List Char) : List Char :=
  match decimals with
  | some k => Text.rightAligned '0' k.toNat digits
  | none => digits

/-- A number with its sign, filled up to the width of its place. -/
def placeNumber (p : Slot) (mark body : List Char) : List Char :=
  let (sign, digits) := match body with
    | '-' :: digits => (['-'], digits)
    | digits =>
        (if p.flags.contains '+' then ['+'] else if p.flags.contains ' ' then [' '] else [], digits)
  let head := sign ++ mark
  let width := (p.width.getD 0).natAbs
  if p.flags.contains '-' || p.width.any (· < 0) then Text.leftAligned ' ' width (head ++ digits)
  else if p.flags.contains '0' then
    head ++ Text.rightAligned '0' (width - head.length) digits
  else Text.rightAligned ' ' width (head ++ digits)

/-- A text filled up to the width of its place. -/
def placeText (p : Slot) (s : List Char) : List Char :=
  let s := match p.decimals with
    | some k => s.take k.toNat
    | none => s
  let width := (p.width.getD 0).natAbs
  if p.flags.contains '-' || p.width.any (· < 0) then Text.leftAligned ' ' width s
  else Text.rightAligned ' ' width s

/-- The integer nearest to zero from a number. -/
def truncated? : Value → Option Int
  | .float x => (Number.quotient? x).map fun (n, d) => Int.tdiv n d
  | v => v.int?

/-- An integer at a place. -/
def placeInt (p : Slot) (letter : Char) (v : Value) : Eval (List Char) := do
  Value.ensureDefined v
  let decimal := letter ∈ ['d', 'i', 'u']
  match if decimal then truncated? v else v.int? with
  | some i =>
      let base := if decimal then 10 else if letter = 'o' then 8 else 16
      if decimal then let _ ← Eval.number i
      let digits := withDigits p.decimals (Nat.toDigits base i.natAbs)
      let mark : List Char :=
        if !decimal && p.flags.contains '#' then ['0', letter] else []
      let body := Number.signed (i < 0) digits
      return placeNumber p mark (if letter = 'X' then body.map Char.toUpper else body)
  | none =>
      let wanted := if decimal then "a real number" else "an integer"
      Eval.wrongType ("%" ++ String.singleton letter ++ " format: " ++ wanted
        ++ " is required, not " ++ (← Eval.typeName v))

/-- A floating-point number at a place. -/
def placeFloat (p : Slot) (letter : Char) (v : Value) : Eval (List Char) := do
  Value.ensureDefined v
  match v.float? with
  | some x =>
      let decimals := (p.decimals.getD 6).toNat
      let body := match letter.toLower with
        | 'e' => Number.exponentForm x decimals
        | 'g' => Number.generalForm x decimals
        | _ => Number.fixedForm x decimals
      return placeNumber p [] (if letter.isUpper then body.map Char.toUpper else body)
  | none => Eval.wrongType ("must be real number, not " ++ (← Eval.typeName v))

/-- A single character at a place. -/
def placeChar (p : Slot) (v : Value) : Eval (List Char) := do
  match v with
  | .text s _ =>
      if s.length = 1 then return placeText { p with decimals := none } s.toList
      else Eval.wrongType "%c requires int or char"
  | v =>
      match v.int? with
      | some i =>
          if 0 ≤ i ∧ i < 0x110000 then
            return placeText { p with decimals := none } [Char.ofNat i.toNat]
          else Eval.fail .overflow "%c arg not in range(0x110000)"
      | none => Eval.wrongType "%c requires int or char"

/-- A value at a place of a given letter; `position` is where the letter stands. -/
def placeValue (p : Slot) (letter : Char) (position : Nat) (v : Value) : Eval (List Char) := do
  if letter = 's' then return placeText p (← Eval.text v).toList
  else if letter = 'r' || letter = 'a' then return placeText p (← Eval.shown v).toList
  else if letter ∈ ['d', 'i', 'u', 'x', 'X', 'o'] then placeInt p letter v
  else if letter ∈ ['e', 'E', 'f', 'F', 'g', 'G'] then placeFloat p letter v
  else if letter = 'c' then placeChar p v
  else
    Eval.fail .wrongValue ("unsupported format character '" ++ String.singleton letter ++ "' (0x"
      ++ String.ofList (Nat.toDigits 16 letter.toNat) ++ s!") at index {position}")

/-- The value for a place: the one under its name, or the next one. -/
def supplied (p : Slot) : StateT Supply Eval Value := do
  match p.key with
  | none => Supply.next
  | some key =>
      match (← get).source with
      | .map entries =>
          match ← Value.lookup? (.ofString key) entries with
          | some v => return v
          | none => Eval.fail .missingKey (Text.quotedString key)
      | _ => Eval.wrongType "format requires a mapping"

/-- One place, after its percent sign. -/
def fillPlace (count : Nat) (s : List Char) : StateT Supply Eval (List Char × List Char) := do
  let (key, s) ← takeKey s
  let flags := s.takeWhile fun c => c ∈ ['#', '0', '-', ' ', '+']
  let (width, s) ← takeNumber (s.drop flags.length)
  let (decimals, s) ← match s with
    | '.' :: rest => do
        let (n, s) ← takeNumber rest
        pure (some (n.getD 0), s)
    | s => pure (none, s)
  let s := match s with
    | c :: rest => if c ∈ ['h', 'l', 'L'] then rest else s
    | [] => []
  let p : Slot := ⟨key, flags, width, decimals⟩
  match s with
  | [] => Eval.fail .wrongValue "incomplete format"
  | '%' :: rest => return (['%'], rest)
  | letter :: rest =>
      let v ← supplied p
      return (← placeValue p letter (count - s.length) v, rest)

/-- A text with its percent places filled one after another; `fuel` exceeds its length. -/
def fillPlaces (count : Nat) : Nat → List Char → StateT Supply Eval (List Char)
  | 0, s => pure s
  | _ + 1, [] => pure []
  | fuel + 1, '%' :: s => do
      let (filled, rest) ← fillPlace count s
      return filled ++ (← fillPlaces count fuel rest)
  | fuel + 1, c :: s => do return c :: (← fillPlaces count fuel s)

/-- **A text with its percent places filled**: by the items of a tuple, by the values of a mapping,
or by a single value. -/
def fillPercent (s : String) (v : Value) : Eval String := do
  let supply : Supply := match v with
    | .tuple items => ⟨items, .null, false⟩
    | .map _ => ⟨[v], v, true⟩
    | .list _ => ⟨[v], v, true⟩
    | v => ⟨[v], .null, false⟩
  let text := s.toList
  let (filled, left) ← (fillPlaces text.length (text.length + 1) text).run supply
  if left.mayRemain || left.queue.isEmpty then return String.ofList filled
  else Eval.wrongType "not all arguments converted during string formatting"

/-! ### Braces -/

/-- How a value is written between braces. -/
structure Form where
  fill : Char
  align : Option Char
  sign : Char
  width : Nat
  isGrouped : Bool
  decimals : Option Nat
  letter : Option Char

/-- The form that stands after the colon. -/
def Form.read (s : List Char) : Option Form :=
  let isAlign (c : Char) : Bool := c ∈ ['<', '>', '^', '=']
  let (fill, align, s) := match s with
    | f :: a :: rest =>
        if isAlign a then (f, some a, rest)
        else if isAlign f then (' ', some f, a :: rest) else (' ', none, s)
    | [a] => if isAlign a then (' ', some a, []) else (' ', none, s)
    | [] => (' ', none, [])
  let (sign, s) := match s with
    | c :: rest => if c ∈ ['+', '-', ' '] then (c, rest) else ('-', s)
    | [] => ('-', [])
  let s := if s.head? = some '#' then s.drop 1 else s
  let (fill, align, s) := match s with
    | '0' :: rest => if align.isNone then ('0', some '=', rest) else (fill, align, rest)
    | s => (fill, align, s)
  let digits := s.takeWhile Char.isDigit
  let s := s.drop digits.length
  let (isGrouped, s) := match s with
    | ',' :: rest => (true, rest)
    | s => (false, s)
  let (decimals, s) := match s with
    | '.' :: rest =>
        let ds := rest.takeWhile Char.isDigit
        ((String.ofList ds).toNat?, rest.drop ds.length)
    | s => (none, s)
  let width := ((String.ofList digits).toNat?).getD 0
  match s with
  | [] => some ⟨fill, align, sign, width, isGrouped, decimals, none⟩
  | [c] => some ⟨fill, align, sign, width, isGrouped, decimals, some c⟩
  | _ => none

/-- A text aligned as a form says; `standard` is the alignment if it says nothing. -/
def Form.aligned (f : Form) (standard : Char) (s : List Char) : List Char :=
  match f.align.getD standard with
  | '<' => Text.leftAligned f.fill f.width s
  | '^' =>
      let extra := f.width - s.length
      Text.padded f.fill (extra / 2) (extra - extra / 2) s
  | '=' =>
      let sign := s.takeWhile fun c => c ∈ ['+', '-', ' ']
      sign ++ Text.rightAligned f.fill (f.width - sign.length) (s.drop sign.length)
  | _ => Text.rightAligned f.fill f.width s

/-- A number with its sign, aligned as a form says. -/
def Form.number (f : Form) (body : List Char) : List Char :=
  let (sign, digits) := match body with
    | '-' :: digits => (['-'], digits)
    | digits => (if f.sign = '-' then [] else [f.sign], digits)
  let whole := digits.takeWhile Char.isDigit
  let digits :=
    if f.isGrouped then Number.grouped ',' whole ++ digits.drop whole.length else digits
  f.aligned '>' (sign ++ digits)

/-- A value written in a form. -/
def Form.write (f : Form) (v : Value) : Eval (List Char) := do
  let unknown (c : Char) : Eval (List Char) := do
    Eval.fail .wrongValue ("Unknown format code '" ++ String.singleton c ++ "' for object of type '"
      ++ (← Eval.typeName v) ++ "'")
  let float (x : Float) : Eval (List Char) := do
    match f.letter with
    | some 'e' => return f.number (Number.exponentForm x (f.decimals.getD 6))
    | some 'f' => return f.number (Number.fixedForm x (f.decimals.getD 6))
    | some 'F' => return f.number (Number.fixedForm x (f.decimals.getD 6))
    | some 'g' => return f.number (Number.generalForm x (f.decimals.getD 6))
    | some '%' => return f.number (Number.fixedForm (x * 100) (f.decimals.getD 6) ++ ['%'])
    | none =>
        match f.decimals with
        | some k => return f.number (Number.generalForm x k)
        | none => return f.number (Number.floatText x).toList
    | some c => unknown c
  match v with
  | .text s _ =>
      match f.letter with
      | none | some 's' =>
          let s := match f.decimals with
            | some k => s.toList.take k
            | none => s.toList
          return f.aligned '<' s
      | some c => unknown c
  | .int i =>
      match f.letter with
      | none | some 'd' => return f.number (← Eval.number i).toList
      | some 'x' => return f.number (Number.inBase 16 i)
      | some 'X' => return f.number ((Number.inBase 16 i).map Char.toUpper)
      | some 'o' => return f.number (Number.inBase 8 i)
      | some 'b' => return f.number (Number.inBase 2 i)
      | some 'c' => return f.aligned '<' [Char.ofNat i.toNat]
      | some _ => float (Float.ofInt i)
  | .float x => float x
  | v =>
      Eval.wrongType ("unsupported format string passed to " ++ (← Eval.typeName v)
        ++ ".__format__")

/-- The value that a name or a number between braces means; `auto` counts the empty ones. -/
def braceValue (args : List Value) (named : List (String × Value)) (auto : Nat)
    (name : List Char) : Eval Value := do
  let head := name.takeWhile fun c => c ≠ '.' && c ≠ '['
  let place? := if head.isEmpty then some auto else (String.ofList head).toNat?
  let v ← match place? with
    | some n =>
        match args[n]? with
        | some v => pure v
        | none =>
            Eval.fail .missingIndex
              s!"Replacement index {n} out of range for positional args tuple"
    | none =>
        match named.lookup (String.ofList head) with
        | some v => pure v
        | none => Eval.fail .missingKey (Text.quotedString (String.ofList head))
  let steps := (Text.splitOn ['.'] name.length
    ((name.drop head.length).flatMap fun c => if c = '[' then ['.'] else if c = ']' then [] else [c]))
  follow none ((steps.drop 1).map fun s => pathStep (String.ofList s)) v

/-- A text with its braces filled one after another; `fuel` exceeds its length. -/
def fillBracesFrom (args : List Value) (named : List (String × Value)) :
    Nat → Nat → List Char → Eval (List Char)
  | 0, _, s => pure s
  | _ + 1, _, [] => pure []
  | fuel + 1, auto, '\x7b' :: '\x7b' :: s => do
      return '\x7b' :: (← fillBracesFrom args named fuel auto s)
  | fuel + 1, auto, '\x7d' :: '\x7d' :: s => do
      return '\x7d' :: (← fillBracesFrom args named fuel auto s)
  | _ + 1, _, '\x7d' :: _ =>
      Eval.fail .wrongValue "Single '\x7d' encountered in format string"
  | fuel + 1, auto, '\x7b' :: s => do
      match Text.splitAround? ['\x7d'] s with
      | none => Eval.fail .wrongValue "Single '\x7b' encountered in format string"
      | some (field, rest) =>
          let name := field.takeWhile fun c => c ≠ ':' && c ≠ '!'
          let after := field.drop name.length
          let (conversion, form) := match after with
            | '!' :: c :: form => (some c, form.drop 1)
            | form => (none, form.drop 1)
          let v ← braceValue args named auto name
          let v ← match conversion with
            | some 'r' => pure (.ofString (← Eval.shown v))
            | some 's' => pure (.ofString (← Eval.text v))
            | _ => pure v
          let filled ←
            if form.isEmpty then pure (← Eval.text v).toList
            else
              match Form.read form with
              | some f => f.write v
              | none => Eval.fail .wrongValue "Invalid format specifier"
          return filled
            ++ (← fillBracesFrom args named fuel (if name.isEmpty then auto + 1 else auto) rest)
  | fuel + 1, auto, c :: s => do return c :: (← fillBracesFrom args named fuel auto s)

/-- **A text with its braces filled.** -/
def fillBraces (s : String) (args : List Value) (named : List (String × Value)) : Eval String := do
  return String.ofList (← fillBracesFrom args named (s.length + 1) 0 s.toList)

end EntryTemplates.Render
