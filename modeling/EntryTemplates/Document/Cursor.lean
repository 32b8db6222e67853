/-
**A place in the text of a YAML document.**

Main definitions:

* `EntryTemplates.Document.Cursor` — the text still ahead, and where it stands;
* `EntryTemplates.Document.Cursor.forward`, `EntryTemplates.Document.Cursor.span` — moving on;
* `EntryTemplates.Document.Cursor.lineBreak` — one line break, read as a line feed unless it is a
  line or paragraph separator.

The end of the text is seen as a null character, which no document may hold.
-/

set_option relaxedAutoImplicit false
set_option autoImplicit false

namespace EntryTemplates.Document

/-! ### Character classes -/

/-- The characters that a document may hold. -/
def isAllowed (c : Char) : Bool :=
  let n := c.toNat
  n == 0x09 || n == 0x0A || n == 0x0D || (0x20 ≤ n && n ≤ 0x7E) || n == 0x85
    || (0xA0 ≤ n && n ≤ 0xFFFD) || 0x10000 ≤ n

/-- The characters that break lines. -/
def isBreak (c : Char) : Bool :=
  c = '\n' || c = '\r' || c = '\u0085' || c = '\u2028' || c = '\u2029'

/-- Line breaks and the end. -/
def isBreakOrEnd (c : Char) : Bool := c = '\x00' || isBreak c

/-- Line breaks, the blank and the end. -/
def isSpaceOrEnd (c : Char) : Bool := c = ' ' || isBreakOrEnd c

/-- Line breaks, the blank, the tab and the end. -/
def isBlankOrEnd (c : Char) : Bool := c = '\t' || isSpaceOrEnd c

/-- ASCII letters and digits, the hyphen and the underscore. -/
def isNameChar (c : Char) : Bool := c.isAlphanum || c = '-' || c = '_'

/-- Hexadecimal digits. -/
def isHexDigit (c : Char) : Bool :=
  c.isDigit || ('a' ≤ c && c ≤ 'f') || ('A' ≤ c && c ≤ 'F')

/-! ### Cursors -/

/-- The text still ahead, with the number of characters before it, its line and its column. -/
structure Cursor where
  rest : List Char
  index : Nat
  line : Nat
  column : Nat
  deriving Repr

namespace Cursor

/-- The beginning of a text. -/
def start (s : List Char) : Cursor := ⟨s, 0, 0, 0⟩

/-- The next character. -/
def peek (c : Cursor) : Char := c.rest.headD '\x00'

/-- The character `k` places ahead. -/
def peekAt (c : Cursor) (k : Nat) : Char := c.rest.getD k '\x00'

/-- The cursor after one character. -/
def step (c : Cursor) : Cursor :=
  match c.rest with
  | [] => c
  | ch :: rest =>
      if (isBreak ch ∧ ch ≠ '\r') ∨ (ch = '\r' ∧ rest.head? ≠ some '\n') then
        ⟨rest, c.index + 1, c.line + 1, 0⟩
      else if ch = '\uFEFF' then ⟨rest, c.index + 1, c.line, c.column⟩
      else ⟨rest, c.index + 1, c.line, c.column + 1⟩

/-- The cursor after some characters. -/
def forward : Nat → Cursor → Cursor
  | 0, c => c
  | n + 1, c => forward n c.step

/-- The characters ahead of which `p` holds, and the cursor after them. -/
def span (p : Char → Bool) (c : Cursor) : List Char × Cursor :=
  let taken := c.rest.takeWhile p
  (taken, c.forward taken.length)

/-- The cursor after the characters of which `p` holds. -/
def skipWhile (p : Char → Bool) (c : Cursor) : Cursor := (c.span p).2

/-- The cursor after blanks. -/
def skipBlanks (c : Cursor) : Cursor := c.skipWhile (· = ' ')

/-- The cursor after a comment, if there is one. -/
def skipComment (c : Cursor) : Cursor :=
  if c.peek = '#' then c.skipWhile fun ch => !isBreak ch else c

/-- One line break as text, and the cursor after it; nothing if there is none. -/
def lineBreak (c : Cursor) : List Char × Cursor :=
  match c.rest with
  | '\r' :: '\n' :: _ => (['\n'], c.forward 2)
  | ch :: _ =>
      if ch = '\r' ∨ ch = '\n' ∨ ch = '\u0085' then (['\n'], c.step)
      else if ch = '\u2028' ∨ ch = '\u2029' then ([ch], c.step)
      else ([], c)
  | [] => ([], c)

/-- Whether three dashes or three dots stand ahead, followed by a blank or the end. -/
def atSeparator (c : Cursor) : Bool :=
  match c.rest with
  | a :: b :: d :: rest =>
      ((a = '-' && b = '-' && d = '-') || (a = '.' && b = '.' && d = '.'))
        && isBlankOrEnd (rest.headD '\x00')
  | _ => false

@[simp] theorem forward_zero (c : Cursor) : forward 0 c = c := rfl

@[simp] theorem forward_succ (n : Nat) (c : Cursor) : forward (n + 1) c = forward n c.step := rfl

theorem step_rest (c : Cursor) : c.step.rest = c.rest.tail := by
  unfold step
  split
  · simp_all
  · rename_i h
    rw [h]
    split
    · rfl
    · split <;> rfl

end Cursor

end EntryTemplates.Document
