/-
**White space, and text without it at the ends.**

The white space of this library is that of Unicode together with the four information separators
U+001C to U+001F.  Names are compared after trimming it, a template that holds nothing else is
empty, and the search for `main` skips it.

Main definitions:

* `EntryTemplates.Text.isBlank` — the white-space characters;
* `EntryTemplates.Text.trimStart`, `trimEnd`, `trim` — a text without its outer white space.
-/

set_option relaxedAutoImplicit false
set_option autoImplicit false

namespace EntryTemplates.Text

/-- The white-space characters: Unicode's, and the information separators. -/
def isBlank (c : Char) : Bool :=
  let n := c.toNat
  (0x09 ≤ n && n ≤ 0x0D) || (0x1C ≤ n && n ≤ 0x20) || n == 0x85 || n == 0xA0 || n == 0x1680
    || (0x2000 ≤ n && n ≤ 0x200A) || n == 0x2028 || n == 0x2029 || n == 0x202F || n == 0x205F
    || n == 0x3000

/-- The text from its first character that is not white space. -/
def trimStart (s : List Char) : List Char := s.dropWhile isBlank

/-- The text up to its last character that is not white space. -/
def trimEnd (s : List Char) : List Char := (s.reverse.dropWhile isBlank).reverse

/-- The text without the white space at its ends. -/
def trim (s : List Char) : List Char := trimEnd (trimStart s)

@[simp] theorem trimStart_nil : trimStart [] = [] := rfl

@[simp] theorem trimEnd_nil : trimEnd [] = [] := rfl

@[simp] theorem trim_nil : trim [] = [] := rfl

/-- Whether a text holds nothing but white space. -/
def isBlankText (s : List Char) : Bool := s.all isBlank

end EntryTemplates.Text
