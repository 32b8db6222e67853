/-
**Text from bytes.**

Bytes are read as UTF-8.  Where that fails, the first byte that does not fit is reported: it begins
no character, or a later byte of its character is missing or wrong.

Main definitions:

* `EntryTemplates.Text.DecodeError` — what is wrong, where, and with how many bytes;
* `EntryTemplates.Text.decode` — the text of some bytes;
* `EntryTemplates.Text.decodeStream` — the same for a file that is read piece by piece: places are
  counted from the start of the piece;
* `EntryTemplates.Text.decodedBefore` — the text of the pieces before the one that fails.
-/

import EntryTemplates.Text.Quoted

set_option relaxedAutoImplicit false
set_option autoImplicit false

namespace EntryTemplates.Text

/-- What is wrong with a byte sequence. -/
inductive DecodeReason where
  | invalidStart
  | invalidContinuation
  | unexpectedEnd
  deriving DecidableEq, Repr

/-- A failed reading of bytes: the first byte concerned, its place, and how many are concerned. -/
structure DecodeError where
  reason : DecodeReason
  byte : UInt8
  position : Nat
  count : Nat
  deriving DecidableEq, Repr

/-- A reason in words. -/
def DecodeReason.words : DecodeReason → String
  | .invalidStart => "invalid start byte"
  | .invalidContinuation => "invalid continuation byte"
  | .unexpectedEnd => "unexpected end of data"

/-- The report on a failed reading. -/
def DecodeError.message (e : DecodeError) : String :=
  let place :=
    if e.count = 1 then
      "byte 0x" ++ String.ofList (hexDigits 2 e.byte.toNat) ++ s!" in position {e.position}"
    else s!"bytes in position {e.position}-{e.position + e.count - 1}"
  "'utf-8' codec can't decode " ++ place ++ ": " ++ e.reason.words

/-- The ranges that the bytes after a first byte must lie in; none if it begins no character. -/
def continuations (b : Nat) : Option (List (Nat × Nat)) :=
  if b < 0x80 then some []
  else if b < 0xC2 then none
  else if b < 0xE0 then some [(0x80, 0xBF)]
  else if b = 0xE0 then some [(0xA0, 0xBF), (0x80, 0xBF)]
  else if b = 0xED then some [(0x80, 0x9F), (0x80, 0xBF)]
  else if b < 0xF0 then some [(0x80, 0xBF), (0x80, 0xBF)]
  else if b = 0xF0 then some [(0x90, 0xBF), (0x80, 0xBF), (0x80, 0xBF)]
  else if b < 0xF4 then some [(0x80, 0xBF), (0x80, 0xBF), (0x80, 0xBF)]
  else if b = 0xF4 then some [(0x80, 0x8F), (0x80, 0xBF), (0x80, 0xBF)]
  else none

/-- How many bytes fit the ranges, and what is wrong with the next one, if anything is. -/
def matchContinuations : List (Nat × Nat) → List UInt8 → Nat → Nat × Option DecodeReason
  | [], _, n => (n, none)
  | _ :: _, [], n => (n, some .unexpectedEnd)
  | (low, high) :: ranges, b :: rest, n =>
      if low ≤ b.toNat ∧ b.toNat ≤ high then matchContinuations ranges rest (n + 1)
      else (n, some .invalidContinuation)

/-- The first failure in some bytes, the next of which stands at `position`; `skip` bytes belong to
a character already checked. -/
def firstFailure (position skip : Nat) : List UInt8 → Option DecodeError
  | [] => none
  | b :: rest =>
      match skip with
      | skip + 1 => firstFailure (position + 1) skip rest
      | 0 =>
          match continuations b.toNat with
          | none => some ⟨.invalidStart, b, position, 1⟩
          | some ranges =>
              match matchContinuations ranges rest 1 with
              | (n, some reason) => some ⟨reason, b, position, n⟩
              | (n, none) => firstFailure (position + 1) (n - 1) rest

/-- The first failure in some bytes. -/
def failureOf (bytes : ByteArray) : DecodeError :=
  (firstFailure 0 0 bytes.toList).getD ⟨.invalidStart, 0, 0, 1⟩

/-- **The text of some bytes.** -/
def decode (bytes : ByteArray) : Except DecodeError String :=
  match String.fromUTF8? bytes with
  | some s => .ok s
  | none => .error (failureOf bytes)

/-! ### Files that are read piece by piece -/

/-- The number of characters that are asked for at a time. -/
def blockSize : Nat := 4096

/-- The least number of bytes in a piece, unless the file ends before. -/
def pieceSize : Nat := 8192

/-- The characters of the first bytes of a file: one that is cut off is left out, and a carriage
return at the end is held back. -/
def decodedUpTo (bytes : ByteArray) (size : Nat) : List Char :=
  let decoded := match decode (bytes.extract 0 size) with
    | .ok s => s.toList
    | .error cut => ((decode (bytes.extract 0 cut.position)).toOption.getD "").toList
  if decoded.getLast? = some '\r' then decoded.dropLast else decoded

/-- How many bytes are read where `known` characters were read before, the last `count` of them from
`size` bytes: so many that the characters that are missing are likely to be among them. -/
def nextSize (known size count : Nat) : Nat :=
  let missing := blockSize - known % blockSize
  max pieceSize (if count = 0 then missing else max missing (size * missing / count))

/-- Where the piece begins in which a byte stands.  The pieces up to `start` hold `known` characters,
the last `count` of them in the last `size` bytes, and `fuel` bounds the number of those to come. -/
def pieceAround (bytes : ByteArray) (place : Nat) : Nat → Nat → Nat → Nat → Nat → Nat
  | 0, start, _, _, _ => start
  | fuel + 1, start, known, size, count =>
      let next := start + nextSize known size count
      if place < next then start
      else
        let decoded := (decodedUpTo bytes next).length
        pieceAround bytes place fuel next decoded (next - start) (decoded - known)

/-- Where the bytes begin that are decoded when a failure shows; a character that is cut off by the
end of a piece is decoded with the next one. -/
def pieceStart (bytes : ByteArray) (e : DecodeError) : Nat :=
  let start (place : Nat) : Nat :=
    let n := pieceAround bytes place (place / pieceSize) 0 0 0 0
    match decode (bytes.extract 0 n) with
    | .ok _ => n
    | .error cut => cut.position
  match e.reason with
  | .invalidStart => start e.position
  | .invalidContinuation => start (e.position + e.count)
  -- behind the last piece there is nothing but what was cut off
  | .unexpectedEnd => e.position

/-- The text of a file that is read piece by piece. -/
def decodeStream (bytes : ByteArray) : Except DecodeError String :=
  match decode bytes with
  | .ok s => .ok s
  | .error e => .error { e with position := e.position - pieceStart bytes e }

/-- The text of the pieces before the one that fails, if any does. -/
def decodedBefore (bytes : ByteArray) : List Char :=
  match decode bytes with
  | .ok s => s.toList
  | .error e => decodedUpTo bytes (pieceStart bytes e)

/-- Text comes back from its own bytes. -/
theorem decode_toUTF8 (s : String) : decode s.toUTF8 = .ok s := by
  have h : String.fromUTF8? s.toUTF8 = some s := by
    simp only [String.fromUTF8?, String.toUTF8_eq_toByteArray, Option.dite_none_right_eq_some]
    exact ⟨s.isValidUTF8, rfl⟩
  unfold decode
  rw [h]

end EntryTemplates.Text
