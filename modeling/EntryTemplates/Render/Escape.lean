/-
**Escaping texts for markup.**

Main definitions:

* `EntryTemplates.Render.escapeText` — a text with the characters of markup replaced by their names.
-/

set_option relaxedAutoImplicit false
set_option autoImplicit false

namespace EntryTemplates.Render

/-- A character of markup by its name. -/
def escapeMarkup (c : Char) : String :=
  if c = '&' then "&amp;"
  else if c = '<' then "&lt;"
  else if c = '>' then "&gt;"
  else if c = '\'' then "&#39;"
  else if c = '"' then "&#34;"
  else String.singleton c

/-- A text with the characters of markup replaced by their names. -/
def escapeText (s : String) : String := String.join (s.toList.map escapeMarkup)

end EntryTemplates.Render
