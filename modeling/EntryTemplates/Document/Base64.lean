/-
**Bytes written in base 64.**

Four letters write three bytes.  Characters outside the alphabet are skipped, and equals signs that
complete a group of four end the text.

Main definitions:

* `EntryTemplates.Document.Base64.decode?` — the bytes of a text, if its last group is complete.
-/

set_option relaxedAutoImplicit false
set_option autoImplicit false

namespace EntryTemplates.Document.Base64

/-- The value of a letter of the alphabet. -/
def value? (c : Char) : Option Nat :=
  if c.isUpper then some (c.toNat - 0x41)
  else if c.isLower then some (c.toNat - 0x61 + 26)
  else if c.isDigit then some (c.toNat - 0x30 + 52)
  else if c = '+' then some 62
  else if c = '/' then some 63
  else none

/-- The bytes of a text.  `place` counts the letters of the present group, `rest` holds the bits
that fill no byte yet, and `pads` counts the equals signs since the last letter. -/
def decodeFrom (place rest pads : Nat) : List Char → Option (List UInt8)
  | [] => if place = 0 then some [] else none
  | c :: more =>
      if c = '=' then
        if 2 ≤ place then
          if 4 ≤ place + pads + 1 then some [] else decodeFrom place rest (pads + 1) more
        else decodeFrom place rest pads more
      else
        match value? c with
        | none => decodeFrom place rest pads more
        | some v =>
            match place with
            | 0 => decodeFrom 1 v 0 more
            | 1 => (decodeFrom 2 (v % 16) 0 more).map (UInt8.ofNat (rest * 4 + v / 16) :: ·)
            | 2 => (decodeFrom 3 (v % 4) 0 more).map (UInt8.ofNat (rest * 16 + v / 4) :: ·)
            | _ => (decodeFrom 0 0 0 more).map (UInt8.ofNat (rest * 64 + v) :: ·)

/-- **The bytes of a text in base 64.** -/
def decode? (s : List Char) : Option (List UInt8) := decodeFrom 0 0 0 s

end EntryTemplates.Document.Base64
