/-
**The characters that words are made of.**

Main definitions:

* `EntryTemplates.Text.isWord` — letters, digits, other numeric characters and the underscore.
-/

import EntryTemplates.Text.Ranges
import EntryTemplates.Text.WordTable

set_option relaxedAutoImplicit false
set_option autoImplicit false

namespace EntryTemplates.Text

/-- Letters, digits, other numeric characters and the underscore. -/
def isWord (c : Char) : Bool :=
  c.isAlphanum || c == '_' || (0x80 ≤ c.toNat && inRanges wordRanges c.toNat)

end EntryTemplates.Text
