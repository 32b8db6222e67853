/-
**A text in quotes.**

A quoted text stands between single quotes, or between double quotes if it holds a single quote
and no double one.  The quote in use and the backslash are preceded by a backslash; tab, line feed
and carriage return have names; every other character without a printed shape is written by its
code in two, four or eight hexadecimal digits.

Main definitions:

* `EntryTemplates.Text.isPrintable` — the characters that stand for themselves;
* `EntryTemplates.Text.quoted` — the text in quotes;
* `EntryTemplates.Text.quotedBytes` — the same for bytes.
-/

import EntryTemplates.Text.PrintableTable
import EntryTemplates.Text.Ranges

set_option relaxedAutoImplicit false
set_option autoImplicit false

namespace EntryTemplates.Text

/-- The characters that a quoted text shows as they are. -/
def isPrintable (c : Char) : Bool :=
  let n := c.toNat
  if n < 0x7F then 0x20 ≤ n else !inRanges hiddenRanges n

/-- A number in lower-case hexadecimal digits, with leading zeros up to `width`. -/
def hexDigits (width n : Nat) : List Char :=
  let digits := Nat.toDigits 16 n
  List.replicate (width - digits.length) '0' ++ digits

/-- The code of a character in two, four or eight hexadecimal digits. -/
def codeEscape (n : Nat) : List Char :=
  if n < 0x100 then '\\' :: 'x' :: hexDigits 2 n
  else if n < 0x10000 then '\\' :: 'u' :: hexDigits 4 n
  else '\\' :: 'U' :: hexDigits 8 n

/-- One character of a quoted text. -/
def quotedChar (quote c : Char) : List Char :=
  if c = quote ∨ c = '\\' then ['\\', c]
  else if c = '\t' then ['\\', 't']
  else if c = '\n' then ['\\', 'n']
  else if c = '\r' then ['\\', 'r']
  else if isPrintable c then [c]
  else codeEscape c.toNat

/-- The quote that a text is written between. -/
def quoteFor (s : List Char) : Char :=
  if s.contains '\'' && !s.contains '"' then '"' else '\''

/-- A text in quotes. -/
def quoted (s : List Char) : List Char :=
  let quote := quoteFor s
  quote :: s.flatMap (quotedChar quote) ++ [quote]

/-- One byte of a quoted byte string: only ASCII stands for itself. -/
def quotedByte (quote : Char) (b : UInt8) : List Char :=
  if b.toNat < 0x7F then quotedChar quote (Char.ofNat b.toNat)
  else '\\' :: 'x' :: hexDigits 2 b.toNat

/-- A byte string in quotes, marked by a leading `b`. -/
def quotedBytes (bytes : List UInt8) : List Char :=
  let quote := quoteFor (bytes.map fun b => Char.ofNat b.toNat)
  'b' :: quote :: bytes.flatMap (quotedByte quote) ++ [quote]

/-- A string in quotes. -/
def quotedString (s : String) : String := String.ofList (quoted s.toList)

end EntryTemplates.Text
