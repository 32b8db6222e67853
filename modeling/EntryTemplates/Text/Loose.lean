/-
**Texts in which a character may be halved.**

An escape may name one of the two halves that a character above U+FFFF is written with elsewhere.  A
half that stands alone is no character: a text that holds one can be kept, compared and searched, but
not turned into bytes.  In its shape U+FFFD stands for each half.

Halves come from documents only.  A template keeps those of its content and of its description, which
are the texts of it that are written or shown; its author and its version are kept in their shape,
and so is the content that a catalogue hands out.  A report on a document shows the shape of what it
quotes, and so does the journal.

Main definitions:

* `EntryTemplates.Text.Letter` — a character, or a half;
* `EntryTemplates.Text.Loose` — a text of letters: its shape, and the halves with their places;
* `EntryTemplates.Text.Loose.whole` — its characters, if it holds no half;
* `EntryTemplates.Text.EncodeError` — the first halves of a text that has no bytes.
-/

import EntryTemplates.Text.Quoted

set_option relaxedAutoImplicit false
set_option autoImplicit false

namespace EntryTemplates.Text

/-- A character, or a half of one by its code. -/
inductive Letter where
  | char (c : Char)
  | half (code : Nat)
  deriving DecidableEq, Repr, Inhabited

namespace Letter

/-- The letter of a code below `0x110000`. -/
def ofCode (n : Nat) : Letter := if n.isValidChar then .char (Char.ofNat n) else .half n

/-- The character that a letter has the shape of. -/
def shape : Letter → Char
  | .char c => c
  | .half _ => '\uFFFD'

/-- The code of a letter, if it is a half. -/
def half? : Letter → Option Nat
  | .char _ => none
  | .half code => some code

end Letter

/-- A half in a text. -/
structure Half where
  position : Nat
  code : Nat
  deriving DecidableEq, Repr

/-- A text in which a character may be halved. -/
structure Loose where
  /-- The text with U+FFFD for each half. -/
  shape : String
  /-- The halves, in the order of their places. -/
  halves : List Half
  deriving DecidableEq, Repr, Inhabited

/-- The halves among letters, the first of which stands at `position`. -/
def halvesFrom (position : Nat) : List Letter → List Half
  | [] => []
  | .char _ :: rest => halvesFrom (position + 1) rest
  | .half code :: rest => ⟨position, code⟩ :: halvesFrom (position + 1) rest

/-- The first halves of a text that has no bytes: the code of the first one, its place, and that of
the last one that follows without a gap. -/
structure EncodeError where
  code : Nat
  first : Nat
  last : Nat
  deriving DecidableEq, Repr

/-- The report on a text that has no bytes. -/
def EncodeError.message (e : EncodeError) : String :=
  let place :=
    if e.first = e.last then
      "character '" ++ String.ofList (codeEscape e.code) ++ s!"' in position {e.first}"
    else s!"characters in position {e.first}-{e.last}"
  "'utf-8' codec can't encode " ++ place ++ ": surrogates not allowed"

namespace Loose

/-- A text of characters. -/
def ofString (s : String) : Loose := ⟨s, []⟩

instance : Coe String Loose := ⟨ofString⟩

@[simp] theorem shape_ofString (s : String) : (ofString s).shape = s := rfl

@[simp] theorem halves_ofString (s : String) : (ofString s).halves = [] := rfl

/-- A text of letters. -/
def ofLetters (letters : List Letter) : Loose :=
  ⟨String.ofList (letters.map Letter.shape), halvesFrom 0 letters⟩

/-- Characters make a text of characters. -/
theorem ofLetters_map_char (s : List Char) : ofLetters (s.map .char) = ofString (String.ofList s) := by
  have hhalves (position : Nat) : halvesFrom position (s.map .char) = [] := by
    induction s generalizing position with
    | nil => rfl
    | cons c s ih => exact ih (position + 1)
  rw [ofLetters, hhalves, List.map_map]
  congr 2
  exact List.map_id s

/-- The letter at a place where the shape has a character. -/
def letterAt (t : Loose) (position : Nat) (c : Char) : Letter :=
  match t.halves.find? fun h => h.position = position with
  | some h => .half h.code
  | none => .char c

/-- The letters of a text. -/
def letters (t : Loose) : List Letter := t.shape.toList.mapIdx t.letterAt

/-- The place of the last of some halves that follow a place without a gap. -/
def runEnd (position : Nat) : List Half → Nat
  | [] => position
  | h :: rest => if h.position = position + 1 then runEnd h.position rest else position

/-- **The characters of a text**, if it holds no half: what can be turned into bytes. -/
def whole (t : Loose) : Except EncodeError String :=
  match t.halves with
  | [] => .ok t.shape
  | h :: rest => .error ⟨h.code, h.position, runEnd h.position rest⟩

@[simp] theorem whole_ofString (s : String) : (ofString s).whole = .ok s := rfl

theorem whole_eq_ok {t : Loose} {s : String} : t.whole = .ok s ↔ t.halves = [] ∧ s = t.shape := by
  rw [whole]
  split <;> simp [*, eq_comm]

/-- A text in quotes, where a half is written by its code. -/
def quoted (t : Loose) : String :=
  let quote := quoteFor t.shape.toList
  String.ofList (quote :: (t.letters.flatMap fun
    | .char c => quotedChar quote c
    | .half code => codeEscape code) ++ [quote])

end Loose

end EntryTemplates.Text
