/-
**Reading the tokens of a template.**

Text stands between tags.  `\x7b\x7b` and `\x7d\x7d` enclose what is printed, `\x7b%` and `%\x7d`
enclose statements, `\x7b#` and `#\x7d` comments; between the statements `raw` and `endraw` all is
text.  A minus sign inside a tag's mark takes away the white space on that side of the tag.

Main definitions:

* `EntryTemplates.Render.Place` — the template still ahead;
* `EntryTemplates.Render.readInside` — one token inside a tag;
* `EntryTemplates.Render.tokensOf` — the tokens of a template.
-/

import EntryTemplates.Number.Read
import EntryTemplates.Render.Token
import EntryTemplates.Text.Lines
import EntryTemplates.Text.Quoted
import EntryTemplates.Text.Search
import EntryTemplates.Text.Word

set_option relaxedAutoImplicit false
set_option autoImplicit false

namespace EntryTemplates.Render

/-! ### Places -/

/-- The template still ahead, the number of characters before it, its line, and the last character
before it. -/
structure Place where
  rest : List Char
  index : Nat
  line : Nat
  last : Option Char

namespace Place

/-- The beginning of a template. -/
def start (s : List Char) : Place := ⟨s, 0, 1, none⟩

/-- The place after some characters. -/
def forward (n : Nat) (p : Place) : Place :=
  let passed := p.rest.take n
  { rest := p.rest.drop n
    index := p.index + passed.length
    line := p.line + passed.count '\n'
    last := passed.getLast?.or p.last }

/-- The place after white space. -/
def skipBlanks (p : Place) : Place := p.forward (p.rest.takeWhile Text.isBlank).length

end Place

/-! ### Numbers, names and texts inside tags -/

/-- A decimal digit of any script. -/
def isDigit (c : Char) : Bool := (Number.decimalValue? c).isSome

/-- The number of characters of digits in groups, single underscores between them. -/
def digitGroups : List Char → Nat
  | [] => 0
  | c :: rest =>
      if isDigit c then
        match rest with
        | '_' :: d :: more => if isDigit d then 2 + digitGroups (d :: more) else 1
        | rest => 1 + digitGroups rest
      else 0

/-- The number of characters of a point and digits; none without digits. -/
def fractionLength : List Char → Nat
  | '.' :: rest => match digitGroups rest with
      | 0 => 0
      | n => n + 1
  | _ => 0

/-- The number of characters of an exponent; none without digits. -/
def exponentLength : List Char → Nat
  | e :: rest =>
      if e = 'e' ∨ e = 'E' then
        let (sign, digits) := match rest with
          | '+' :: more => (1, more)
          | '-' :: more => (1, more)
          | more => (0, more)
        match digitGroups digits with
        | 0 => 0
        | n => n + sign + 1
      else 0
  | [] => 0

/-- The number of characters of a number with a point or an exponent. -/
def floatLength (s : List Char) : Nat :=
  let whole := digitGroups s
  if whole = 0 then 0
  else
    let fraction := fractionLength (s.drop whole)
    let exponent := exponentLength (s.drop (whole + fraction))
    if exponent ≠ 0 then whole + fraction + exponent
    else
      let exponent := exponentLength (s.drop whole)
      if exponent ≠ 0 then whole + exponent
      else if fraction ≠ 0 then whole + fraction
      else 0

/-- The number of characters of which `p` holds, an underscore before any of them. -/
def groupsOf (p : Char → Bool) : List Char → Nat
  | '_' :: c :: rest => if p c then 2 + groupsOf p rest else 0
  | c :: rest => if p c then 1 + groupsOf p rest else 0
  | [] => 0

/-- The digits of a base above ten, and below it. -/
def isDigitOf (base : Nat) (c : Char) : Bool := (Number.digitValue? c).any fun d => d < base

/-- The base that a letter after a zero means. -/
def baseOf? (c : Char) : Option Nat :=
  if c = 'b' ∨ c = 'B' then some 2
  else if c = 'o' ∨ c = 'O' then some 8
  else if c = 'x' ∨ c = 'X' then some 16
  else none

/-- The number of characters of an integer. -/
def integerLength (s : List Char) : Nat :=
  match s with
  | '0' :: rest =>
      let inBase := match rest with
        | mark :: digits => match baseOf? mark with
            | some base => groupsOf (isDigitOf base) digits
            | none => 0
        | [] => 0
      if inBase ≠ 0 then 2 + inBase else 1 + groupsOf (· = '0') rest
  | c :: rest => if '1' ≤ c ∧ c ≤ '9' then 1 + groupsOf isDigit rest else 0
  | [] => 0

/-- The integer that digits write, in the base that they name. -/
def integerValue (s : List Char) : Except Malformed Nat :=
  let base := match s with
    | '0' :: mark :: _ => (baseOf? mark).getD 10
    | _ => 10
  let digits := s.filter (· ≠ '_')
  if base = 10 ∧ Number.digitLimit < digits.length then .error (.tooLong (.read digits.length))
  else .ok ((Number.readInt? base digits).getD 0).toNat

/-- The number of characters of a text in quotes; none if it is not closed. -/
def stringLength (quote : Char) : List Char → Nat → Option Nat
  | [], _ => none
  | '\\' :: _ :: rest, n => stringLength quote rest (n + 2)
  | c :: rest, n => if c = quote then some (n + 1) else stringLength quote rest (n + 1)

/-! ### Escapes -/

/-- What a letter after a backslash stands for. -/
def escapedLetter? : Char → Option Char
  | '\\' => some '\\'
  | '\'' => some '\''
  | '"' => some '"'
  | 'a' => some '\x07'
  | 'b' => some '\x08'
  | 'f' => some '\x0C'
  | 'n' => some '\n'
  | 'r' => some '\r'
  | 't' => some '\t'
  | 'v' => some '\x0B'
  | _ => none

/-- The number that digits of a base write. -/
def numberIn (base : Nat) (s : List Char) : Nat :=
  s.foldl (fun acc c => acc * base + (Number.digitValue? c).getD 0) 0

/-- The character of a code; a code without a character stands for the replacement character. -/
def charOf (n : Nat) : Char := if n.isValidChar then Char.ofNat n else '\uFFFD'

/-- How many hexadecimal digits follow a letter after a backslash. -/
def codeDigits? : Char → Option Nat
  | 'x' => some 2
  | 'u' => some 4
  | 'U' => some 8
  | _ => none

/-- An ASCII digit of base eight. -/
def isOctal (c : Char) : Bool := '0' ≤ c && c ≤ '7'

/-- An ASCII digit of base sixteen. -/
def isHex (c : Char) : Bool := c.toNat < 0x80 && isDigitOf 16 c

/-- A text with its escapes replaced; its length bounds the recursion. -/
def unescape : Nat → List Char → Except Malformed (List Char)
  | 0, s => .ok s
  | _ + 1, [] => .ok []
  | fuel + 1, '\\' :: c :: rest =>
      match escapedLetter? c with
      | some x => (unescape fuel rest).map (x :: ·)
      | none =>
          if c = '\n' then unescape fuel rest
          else if isOctal c then
            let digits := c :: (rest.take 2).takeWhile isOctal
            (unescape fuel (rest.drop (digits.length - 1))).map (charOf (numberIn 8 digits) :: ·)
          else
            match codeDigits? c with
            | some count =>
                let digits := (rest.take count).takeWhile isHex
                let code := numberIn 16 digits
                if digits.length < count then
                  .error (.broken
                    ("truncated \\" ++ String.ofList (c :: List.replicate count 'X') ++ " escape"))
                else if 0x110000 ≤ code then .error (.broken "illegal Unicode character")
                else (unescape fuel (rest.drop count)).map (charOf code :: ·)
            | none =>
                let kept := if c.toNat < 0x80 then ['\\', c] else Text.codeEscape c.toNat
                (unescape fuel rest).map (kept ++ ·)
  | fuel + 1, c :: rest => (unescape fuel rest).map (c :: ·)

/-! ### Inside tags -/

/-- The symbols of two characters. -/
def longSymbols : List String := ["==", "!=", ">=", "<=", "//", "**"]

/-- The characters that are symbols by themselves. -/
def shortSymbols : List Char := "+-/*%~[](){}><=.:|,;".toList

/-- A symbol. -/
def symbol? (s : List Char) : Option String :=
  (longSymbols.find? fun l => l.toList.isPrefixOf s).or
    (match s with
      | c :: _ => if c ∈ shortSymbols then some (String.singleton c) else none
      | [] => none)

/-- The bracket that closes another one. -/
def closing? (s : String) : Option String :=
  if s = "(" then some ")"
  else if s = "[" then some "]"
  else if s = "\x7b" then some "\x7d"
  else none

/-- The closing brackets still expected after a symbol. -/
def balance (expected : List String) (s : String) : Except Malformed (List String) :=
  match closing? s with
  | some close => .ok (close :: expected)
  | none =>
      if s = ")" ∨ s = "]" ∨ s = "\x7d" then
        match expected with
        | [] => .error (.broken ("unexpected '" ++ s ++ "'"))
        | close :: rest =>
            if close = s then .ok rest
            else .error (.broken ("unexpected '" ++ s ++ "', expected '" ++ close ++ "'"))
      else .ok expected

/-- The line breaks of a text as the template's own. -/
def withBreaks (lineBreak : List Char) (s : List Char) : List Char :=
  Text.replaceChar '\n' lineBreak s

/-- **One token inside a tag**, the number of its characters, and the closing brackets expected
after it. -/
def readInside (lineBreak : List Char) (expected : List String) (p : Place) :
    Except Malformed (Token × Nat × List String) :=
  let s := p.rest
  let float := if p.last = some '.' then 0 else floatLength s
  let integer := integerLength s
  let word := (s.takeWhile Text.isWord).length
  let quoted := match s with
    | '\'' :: rest => stringLength '\'' rest 1
    | '"' :: rest => stringLength '"' rest 1
    | _ => none
  if float ≠ 0 then
    let x := (Number.readFloat? (s.take float)).getD 0
    .ok (.float x, float, expected)
  else if integer ≠ 0 then
    (integerValue (s.take integer)).map fun n => (.integer n, integer, expected)
  else if word ≠ 0 then
    if s.head?.any isDigit then .error (.broken "Invalid character in identifier")
    else .ok (.name (String.ofList (s.take word)), word, expected)
  else
    match quoted, symbol? s with
    | some n, _ =>
        let body := withBreaks lineBreak ((s.drop 1).take (n - 2))
        (unescape (body.length + 1) body).map fun text => (.string (String.ofList text), n, expected)
    | none, some symbol =>
        (balance expected symbol).map fun expected => (.symbol symbol, symbol.length, expected)
    | none, none =>
        let c := String.singleton (s.headD ' ')
        .error (.broken ("unexpected char " ++ Text.quotedString c ++ s!" at {p.index}"))

/-! ### Tags -/

/-- The tags. -/
inductive Tag where
  | variable
  | block
  | comment
  | raw
  deriving DecidableEq, Repr

/-- The number of characters of a tag's end, with the white space that it takes away. -/
def endLength? (tag : Tag) (s : List Char) : Option Nat :=
  let close := match tag with
    | .variable => ['\x7d', '\x7d']
    | .comment => ['#', '\x7d']
    | _ => ['%', '\x7d']
  match Text.dropPrefix? close s with
  | some _ => some 2
  | none =>
      match Text.dropPrefix? ('-' :: close) s with
      | some after => some (3 + (after.takeWhile Text.isBlank).length)
      | none =>
          if tag ≠ .variable ∧ ('+' :: close).isPrefixOf s then some 3 else none

/-- A sign at the beginning of a tag. -/
def sign (s : List Char) : List Char :=
  match s with
  | '-' :: _ => ['-']
  | '+' :: _ => ['+']
  | _ => []

/-- The number of characters of the statement `word` from its sign on; a plus sign may stand at
its end only if `plusEnd` holds. -/
def wordTag? (word : String) (plusEnd : Bool) (s : List Char) : Option Nat := do
  let afterSign := s.drop (sign s).length
  let body := afterSign.dropWhile Text.isBlank
  let after := (← Text.dropPrefix? word.toList body).dropWhile Text.isBlank
  if !plusEnd ∧ after.head? = some '+' then none
  let n ← endLength? .block after
  return s.length - after.length + n

/-- The next tag, the text before it, the number of characters of its beginning, and whether it
takes away the white space before it. -/
def findTag : List Char → List Char → Option (Tag × List Char × Nat × Bool)
  | _, [] => none
  | before, '\x7b' :: c :: rest =>
      let strips := sign rest = ['-']
      let n := 2 + (sign rest).length
      if c = '\x7b' then some (.variable, before.reverse, n, strips)
      else if c = '#' then some (.comment, before.reverse, n, strips)
      else if c = '%' then
        match wordTag? "raw" false rest with
        | some m => some (.raw, before.reverse, 2 + m, strips)
        | none => some (.block, before.reverse, n, strips)
      else findTag ('\x7b' :: before) (c :: rest)
  | before, c :: rest => findTag (c :: before) rest

/-- The text of a comment and the number of characters up to its end. -/
def findCommentEnd : List Char → Nat → Option Nat
  | [], _ => none
  | c :: rest, n =>
      match endLength? .comment (c :: rest) with
      | some m => some (n + m)
      | none => findCommentEnd rest (n + 1)

/-- The end of raw text: the text, the number of characters up to its end, and whether the white
space before it is taken away. -/
def findRawEnd : List Char → List Char → Option (List Char × Nat × Bool)
  | _, [] => none
  | before, '\x7b' :: '%' :: rest =>
      match wordTag? "endraw" true rest with
      | some n => some (before.reverse, before.length + 2 + n, sign rest = ['-'])
      | none => findRawEnd ('\x7b' :: before) ('%' :: rest)
  | before, c :: rest => findRawEnd (c :: before) rest

/-- A text as a token; an empty text makes none. -/
def dataToken (lineBreak : List Char) (line : Nat) (strips : Bool) (s : List Char) :
    List Located :=
  let s := if strips then Text.trimEnd s else s
  if s = [] then [] else [⟨.data (String.ofList (withBreaks lineBreak s)), line⟩]

/-! ### The whole template -/

/-- Where a template is read: between tags, or in one of them with the closing brackets expected. -/
inductive Mode where
  | outside
  | inside (tag : Tag) (expected : List String)

/-- What one step of reading gives. -/
inductive Step where
  /-- Tokens, and where reading goes on. -/
  | more (tokens : List Located) (mode : Mode) (place : Place)
  /-- The last tokens. -/
  | last (tokens : List Located)
  | failed (e : Malformed)

/-- A step between tags. -/
def stepOutside (lineBreak : List Char) (p : Place) : Step :=
  match findTag [] p.rest with
  | none => .last (dataToken lineBreak p.line false p.rest)
  | some (tag, text, n, strips) =>
      let data := dataToken lineBreak p.line strips text
      let at_ := p.forward text.length
      let next := at_.forward n
      match tag with
      | .variable => .more (data ++ [⟨.variableStart, at_.line⟩]) (.inside .variable []) next
      | .block => .more (data ++ [⟨.blockStart, at_.line⟩]) (.inside .block []) next
      | tag => .more data (.inside tag []) next

/-- A step inside a tag. -/
def stepInside (lineBreak : List Char) (tag : Tag) (expected : List String) (p : Place) : Step :=
  let close (t : Token) : Option Step :=
    if expected = [] then
      (endLength? tag p.rest).map fun n => .more [⟨t, p.line⟩] .outside (p.forward n)
    else none
  let token : Step :=
    let q := p.skipBlanks
    if q.index ≠ p.index then .more [] (.inside tag expected) q
    else if p.rest = [] then .last []
    else
      match readInside lineBreak expected p with
      | .ok (t, n, expected) => .more [⟨t, p.line⟩] (.inside tag expected) (p.forward n)
      | .error e => .failed e
  match tag with
  | .comment =>
      match findCommentEnd p.rest 0 with
      | some n => .more [] .outside (p.forward n)
      | none =>
          if p.rest = [] then .last [] else .failed (.broken "Missing end of comment tag")
  | .raw =>
      match findRawEnd [] p.rest with
      | some (text, n, strips) =>
          .more (dataToken lineBreak p.line strips text) .outside (p.forward n)
      | none =>
          if p.rest = [] then .last [] else .failed (.broken "Missing end of raw directive")
  | .variable => (close .variableEnd).getD token
  | .block => (close .blockEnd).getD token

/-- One step of reading. -/
def step (lineBreak : List Char) (mode : Mode) (p : Place) : Step :=
  match mode with
  | .outside => stepOutside lineBreak p
  | .inside tag expected => stepInside lineBreak tag expected p

/-- The tokens from a place on, after `done` (in reverse). -/
def run (lineBreak : List Char) : Nat → List Located → Mode → Place → Feed
  | 0, done, _, _ => ⟨done.reverse, none⟩
  | fuel + 1, done, mode, p =>
      match step lineBreak mode p with
      | .more tokens mode p => run lineBreak fuel (tokens.reverse ++ done) mode p
      | .last tokens => ⟨(tokens.reverse ++ done).reverse, none⟩
      | .failed e => ⟨done.reverse, some e⟩

/-- **The tokens of a template** whose line breaks are line feeds; texts get the given ones. -/
def tokensOf (lineBreak : List Char) (s : List Char) : Feed :=
  run lineBreak (2 * s.length + 4) [] .outside (.start s)

end EntryTemplates.Render
