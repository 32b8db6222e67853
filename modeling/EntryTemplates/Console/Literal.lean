/-
**Values among the parameters of an action.**

The parameters of an action are read as one value: a number, a text, bytes, a constant, or a tuple, a
set or a mapping of values.  Nothing is computed but signs and complex numbers, and only what can be
hashed may be in a set or be a key.  The source is cut into tokens, which a stack of open brackets
takes one by one.  Left out are escapes that name a character by its full name, other forms of the
letters of a name, and the memory that reading takes.

Main definitions:

* `EntryTemplates.Console.Literal.Token` — the tokens of a value;
* `EntryTemplates.Console.Literal.tokens?` — a source cut into tokens;
* `EntryTemplates.Console.Literal.Frame` — what stands since a bracket was opened;
* `EntryTemplates.Console.Literal.isValue` — **whether a source can be read as a value**.
-/

import EntryTemplates.Number.Written

set_option relaxedAutoImplicit false
set_option autoImplicit false

namespace EntryTemplates.Console.Literal

/-! ### Tokens -/

/-- A number: a whole one, one with a fraction or an exponent, or an imaginary one. -/
inductive Numeral where
  | whole (n : Nat)
  | real
  | imaginary
  deriving DecidableEq, Repr

/-- A kind of brackets. -/
inductive Bracket where
  | round
  | curly
  deriving DecidableEq, Repr

/-- A token of a value. -/
inductive Token where
  | number (n : Numeral)
  | text
  | bytes
  | constant
  /-- The name of the empty set, if an empty pair of parentheses follows. -/
  | setName
  | opening (b : Bracket)
  | closing (b : Bracket)
  | comma
  | colon
  | sign
  /-- The end of a line, and whether the next one is indented. -/
  | lineEnd (indented : Bool)
  deriving DecidableEq, Repr

/-- Letters, digits and what else may stand in a name. -/
def inName (c : Char) : Bool := c.isAlphanum || c = '_' || 0x80 ≤ c.toNat

/-- Blanks between tokens. -/
def isGap (c : Char) : Bool := c = ' ' || c = '\t' || c = '\x0c'

/-- A source in which every line ends with a line feed alone. -/
def withLineFeeds : List Char → List Char
  | '\r' :: '\n' :: rest => '\n' :: withLineFeeds rest
  | '\r' :: rest => '\n' :: withLineFeeds rest
  | c :: rest => c :: withLineFeeds rest
  | [] => []

/-! ### Numbers -/

/-- Digits from the second one on, single low lines between them left out, and what follows. -/
def moreDigits (isDigit : Char → Bool) : List Char → List Char × List Char
  | [] => ([], [])
  | [c] => if isDigit c then ([c], []) else ([], [c])
  | c :: d :: rest =>
      if isDigit c then
        let (digits, after) := moreDigits isDigit (d :: rest)
        (c :: digits, after)
      else if c = '_' && isDigit d then
        let (digits, after) := moreDigits isDigit rest
        (d :: digits, after)
      else ([], c :: d :: rest)

/-- Decimal digits, and what follows. -/
def decimals : List Char → List Char × List Char
  | c :: rest => if c.isDigit then moreDigits Char.isDigit (c :: rest) else ([], c :: rest)
  | [] => ([], [])

/-- What follows an exponent, if there is one. -/
def afterExponent? : List Char → Option (List Char)
  | e :: rest =>
      if e = 'e' || e = 'E' then
        let digits := match rest with
          | '+' :: rest => rest
          | '-' :: rest => rest
          | rest => rest
        match decimals digits with
        | ([], _) => none
        | (_, after) => some after
      else none
  | [] => none

/-- The value of digits. -/
def valueOf (base : Nat) (digits : List Char) : Nat :=
  digits.foldl (fun n c =>
    n * base + (if c.isDigit then c.toNat - 0x30 else c.toLower.toNat - 0x61 + 10)) 0

/-- The digits of a base that is named by a letter after a zero. -/
def baseOf? (c : Char) : Option (Nat × (Char → Bool)) :=
  match c.toLower with
  | 'x' => some (16, fun c => c.isDigit || ('a' ≤ c.toLower && c.toLower ≤ 'f'))
  | 'o' => some (8, fun c => '0' ≤ c && c ≤ '7')
  | 'b' => some (2, fun c => c = '0' || c = '1')
  | _ => none

/-- A decimal number, and what follows. -/
def decimal? (s : List Char) : Option (Numeral × List Char) :=
  let (before, rest) := decimals s
  let (hasPoint, rest) := match rest with
    | '.' :: rest => (true, (decimals rest).2)
    | rest => (false, rest)
  let (hasExponent, rest) := match afterExponent? rest with
    | some after => (true, after)
    | none => (false, rest)
  match rest with
  | 'j' :: rest => some (.imaginary, rest)
  | 'J' :: rest => some (.imaginary, rest)
  | rest =>
      if hasPoint || hasExponent then some (.real, rest)
      else
        let n := valueOf 10 before
        -- a number that begins with zero is zero
        if before.head? = some '0' then (if n = 0 then some (.whole 0, rest) else none)
        else if before.length ≤ Number.digitLimit then some (.whole n, rest)
        else none

/-- A number, and what follows; no letter may. -/
def number? (s : List Char) : Option (Numeral × List Char) := do
  let (n, rest) ← match s with
    | '0' :: c :: rest =>
        match baseOf? c with
        | some (base, isDigit) =>
            match moreDigits isDigit rest with
            | ([], _) => none
            | (digits, after) => some (Numeral.whole (valueOf base digits), after)
        | none => decimal? s
    | s => decimal? s
  if rest.head?.any inName then none else some (n, rest)

/-! ### Texts -/

/-- Whether a text begins with so many hexadecimal digits, which name a character. -/
def namesCode (count : Nat) (s : List Char) : Bool :=
  let digits := s.take count
  digits.length = count && digits.all (fun c => c.isDigit || ('a' ≤ c.toLower && c.toLower ≤ 'f'))
    && valueOf 16 digits < 0x110000

/-- Whether an escape is in order, by what follows its backslash. -/
def isEscape (isBytes : Bool) (c : Char) (rest : List Char) : Bool :=
  if c = 'x' then namesCode 2 rest
  else if isBytes then true
  else if c = 'u' then namesCode 4 rest
  else if c = 'U' then namesCode 8 rest
  else c ≠ 'N'

/-- What follows a text the opening quotes of which stand before it. -/
def afterText? (isBytes isRaw isLong : Bool) (quote : Char) : List Char → Option (List Char)
  | [] => none
  | [c] => if c = quote && !isLong then some [] else none
  | c :: d :: rest =>
      if isBytes && (0x80 ≤ c.toNat || (c = '\\' && 0x80 ≤ d.toNat)) then none
      else if c = '\\' then
        if isRaw || isEscape isBytes d rest then afterText? isBytes isRaw isLong quote rest
        else none
      else if c = quote then
        if !isLong then some (d :: rest)
        else
          match rest with
          | e :: more =>
              if d = quote && e = quote then some more
              else afterText? isBytes isRaw isLong quote (d :: rest)
          | [] => none
      else if c = '\n' && !isLong then none
      else afterText? isBytes isRaw isLong quote (d :: rest)

/-- The letters before a text's quotes: whether they make it bytes, and whether backslashes are
plain in it. -/
def prefixOf? (letters : List Char) : Option (Bool × Bool) :=
  match String.ofList (letters.map Char.toLower) with
  | "" => some (false, false)
  | "u" => some (false, false)
  | "r" => some (false, true)
  | "b" => some (true, false)
  | "br" => some (true, true)
  | "rb" => some (true, true)
  | _ => none

/-- A text in quotes after the given letters, and what follows. -/
def text? (letters : List Char) (s : List Char) : Option (Token × List Char) := do
  let (isBytes, isRaw) ← prefixOf? letters
  let token := if isBytes then Token.bytes else .text
  let quote ← s.head?
  let after ← match s with
    | a :: b :: c :: rest =>
        if b = a && c = a then afterText? isBytes isRaw true quote rest
        else if b = a then some (c :: rest)
        else afterText? isBytes isRaw false quote (b :: c :: rest)
    | [a, b] => if b = a then some [] else none
    | _ => none
  return (token, after)

/-! ### Cutting a source -/

/-- Whether a line is indented that goes on with these characters; one that is continued counts as a
single one. -/
def isIndented : Bool → List Char → Bool
  | indented, '\\' :: '\n' :: rest => indented || isIndented false rest
  | indented, c :: rest =>
      if c = ' ' || c = '\t' then isIndented true rest
      else if c = '\x0c' then isIndented false rest
      else indented
  | indented, [] => indented

/-- A name or a text that begins with letters, and what follows. -/
def word? (s : List Char) : Option (Token × List Char) :=
  let letters := s.takeWhile inName
  let rest := s.drop letters.length
  if rest.head? = some '\'' || rest.head? = some '"' then text? letters rest
  else
    match String.ofList letters with
    | "None" => some (.constant, rest)
    | "True" => some (.constant, rest)
    | "False" => some (.constant, rest)
    | "set" => some (.setName, rest)
    | _ => none

/-- The token that a source begins with, and what follows. -/
def token? (s : List Char) : Option (Token × List Char) :=
  match s with
  | '.' :: '.' :: '.' :: rest => some (.constant, rest)
  | '(' :: rest => some (.opening .round, rest)
  | ')' :: rest => some (.closing .round, rest)
  | '\x7b' :: rest => some (.opening .curly, rest)
  | '\x7d' :: rest => some (.closing .curly, rest)
  | ',' :: rest => some (.comma, rest)
  | ':' :: rest => some (.colon, rest)
  | '+' :: rest => some (.sign, rest)
  | '-' :: rest => some (.sign, rest)
  | '\n' :: rest => some (.lineEnd (isIndented false rest), rest)
  | '.' :: c :: _ => if c.isDigit then (number? s).map fun (n, rest) => (.number n, rest) else none
  | c :: _ =>
      if c.isDigit then (number? s).map fun (n, rest) => (.number n, rest) else word? s
  | [] => none

/-- The tokens of a source without its first `skip` characters. -/
def tokensAfter? : Nat → List Char → Option (List Token)
  | _, [] => some []
  | skip + 1, _ :: rest => tokensAfter? skip rest
  | 0, c :: rest =>
      if isGap c then tokensAfter? 0 rest
      else if c = '#' then tokensAfter? (rest.takeWhile (· ≠ '\n')).length rest
      else if c = '\\' then (if rest.head? = some '\n' then tokensAfter? 1 rest else none)
      else
        match token? (c :: rest) with
        | some (token, after) =>
            (tokensAfter? (rest.length - after.length) rest).map (token :: ·)
        | none => none

/-- **The tokens of a source**, the first of which tells how its first line begins. -/
def tokens? (s : List Char) : Option (List Token) :=
  let s := withLineFeeds s
  if s.contains '\x00' then none
  else (tokensAfter? 0 s).map fun tokens => .lineEnd (isIndented false s) :: tokens

/-! ### Values -/

/-- What has been found: a number without or with a sign, a text or bytes that may go on, the name of
the empty set, or any other value. -/
inductive Found where
  | number (n : Numeral)
  | signed (n : Numeral)
  | text
  | bytes
  | setName
  | other (isHashable : Bool)
  deriving DecidableEq, Repr

/-- Whether a value can be hashed, if it is a value. -/
def Found.hashable? : Found → Option Bool
  | .setName => none
  | .other isHashable => some isHashable
  | _ => some true

/-- What has been found as it stands in parentheses. -/
def Found.enclosed : Found → Found
  | .text => .other true
  | .bytes => .other true
  | v => v

/-- What stands since the last comma, colon or bracket. -/
inductive Pending where
  | nothing
  | sign
  | found (v : Found)
  /-- A number and a sign after it. -/
  | sum (left : Numeral)
  deriving DecidableEq, Repr

/-- Whether an imaginary number can be added to a number: a whole one may be too large. -/
def Numeral.isAddend : Numeral → Bool
  | .whole n => n < Nat.pow 2 1024 - Nat.pow 2 970
  | .real => true
  | .imaginary => false

namespace Pending

/-- What stands there after a value. -/
def add : Pending → Found → Option Pending
  | .nothing, v => some (.found v)
  | .sign, .number n => some (.found (.signed n))
  | .sum left, .number .imaginary => if left.isAddend then some (.found (.other true)) else none
  | .found .text, .text => some (.found .text)
  | .found .bytes, .bytes => some (.found .bytes)
  | _, _ => none

/-- What stands there after a sign. -/
def addSign : Pending → Option Pending
  | .nothing => some .sign
  | .found (.number n) => some (.sum n)
  | .found (.signed n) => some (.sum n)
  | _ => none

end Pending

/-- What a bracket was opened for; nothing is opened at the top. -/
inductive Purpose where
  | top
  | group
  | call
  | collection
  deriving DecidableEq, Repr

/-- What stands since a bracket was opened. -/
structure Frame where
  purpose : Purpose
  pending : Pending := .nothing
  /-- Whether a comma has ended an item. -/
  hasItems : Bool := false
  /-- Whether all items can be hashed. -/
  isHashable : Bool := true
  /-- Whether the items of a collection have keys, once it is known. -/
  isMapping : Option Bool := none
  /-- Whether a colon stands since the last comma. -/
  hasKey : Bool := false
  deriving DecidableEq, Repr

namespace Frame

/-- A frame after a value. -/
def add (f : Frame) (v : Found) : Option Frame :=
  (f.pending.add v).map fun pending => { f with pending }

/-- A frame after a colon: what stands before it is a key. -/
def addColon (f : Frame) : Option Frame :=
  match f.purpose, f.pending with
  | .collection, .found v =>
      if f.hasKey || v.hashable? ≠ some true then none
      else some { f with pending := .nothing, hasKey := true }
  | _, _ => none

/-- A frame after the end of an item. -/
def endItem (f : Frame) : Option Frame :=
  match f.pending with
  | .found v =>
      match v.hashable? with
      | none => none
      | some isHashable =>
          let ended := { f with
            pending := .nothing, hasItems := true, isHashable := f.isHashable && isHashable
            hasKey := false }
          match f.purpose with
          | .call => none
          | .collection =>
              if f.isMapping.any (· ≠ f.hasKey) || (!f.hasKey && !isHashable) then none
              else some { ended with isMapping := f.hasKey }
          | _ => some ended
  | _ => none

/-- A frame at its end, where the last item may have been ended already. -/
def finish (f : Frame) : Option Frame :=
  if f.pending = .nothing && !f.hasKey then some f else f.endItem

/-- What a frame makes when its bracket is closed. -/
def close (f : Frame) : Bracket → Option Found
  | .round =>
      match f.purpose, f.pending with
      | .call, .nothing => some (.other false)
      | .group, .found v =>
          if f.hasItems then f.finish.map fun f => .other f.isHashable else some v.enclosed
      | .group, _ => f.finish.map fun f => .other f.isHashable
      | _, _ => none
  | .curly => if f.purpose = .collection then f.finish.map fun _ => .other false else none

end Frame

/-- The most brackets that are open at a time. -/
def nestingLimit : Nat := 200

/-- How far a value has been read. -/
structure State where
  /-- The frame since the last bracket, and those around it. -/
  frame : Frame := { purpose := .top }
  outer : List Frame := []
  /-- Whether the line on which a value may begin is indented. -/
  isIndented : Bool := false
  /-- Whether the line of the value has ended. -/
  isOver : Bool := false
  deriving Repr

namespace State

/-- Whether nothing has been read. -/
def isFresh (s : State) : Bool := s.outer.isEmpty && s.frame == { purpose := .top }

/-- A state after a value. -/
def add (s : State) (v : Found) : Option State := (s.frame.add v).map fun frame => { s with frame }

/-- A state after an opening bracket. -/
def «open» (s : State) (b : Bracket) : Option State :=
  if nestingLimit ≤ s.outer.length then none
  else
    match b, s.frame.pending with
    | .round, .found .setName =>
        let caller := { s.frame with pending := .nothing }
        some { s with frame := { purpose := .call }, outer := caller :: s.outer }
    | _, .found _ => none
    | .round, _ => some { s with frame := { purpose := .group }, outer := s.frame :: s.outer }
    | .curly, _ => some { s with frame := { purpose := .collection }, outer := s.frame :: s.outer }

/-- A state after a closing bracket: what it closes is a value. -/
def close (s : State) (b : Bracket) : Option State := do
  let v ← s.frame.close b
  match s.outer with
  | [] => none
  | around :: outer => return { s with frame := ← around.add v, outer }

/-- A state after the end of a line. -/
def endLine (s : State) (isIndented : Bool) : Option State :=
  if !s.outer.isEmpty then some s
  else if s.isFresh then some { s with isIndented }
  else s.frame.finish.map fun frame => { s with frame, isOver := true }

/-- A state after a token. -/
def step (s : State) (t : Token) : Option State :=
  match t with
  | .lineEnd isIndented => s.endLine isIndented
  | t =>
      if s.isOver || s.isIndented then none
      else
        match t with
        | .number n => s.add (.number n)
        | .text => s.add .text
        | .bytes => s.add .bytes
        | .constant => s.add (.other true)
        | .setName => s.add .setName
        | .opening b => s.open b
        | .closing b => s.close b
        | .comma => s.frame.endItem.map fun frame => { s with frame }
        | .colon => s.frame.addColon.map fun frame => { s with frame }
        | .sign => s.frame.pending.addSign.map fun pending =>
            { s with frame := { s.frame with pending } }
        | .lineEnd _ => some s

end State

/-- **Whether a source can be read as a value.** -/
def isValue (source : List Char) : Bool :=
  match (tokens? source).bind fun tokens => tokens.foldlM State.step ({} : State) with
  | some s => s.outer.isEmpty && !s.isFresh && s.frame.finish.isSome
  | none => false

end EntryTemplates.Console.Literal
