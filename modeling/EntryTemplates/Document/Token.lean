/-
**The tokens of a YAML document.**

Main definitions:

* `EntryTemplates.Document.Directive` — what stands before a document;
* `EntryTemplates.Document.ScalarForm` — how a scalar is written;
* `EntryTemplates.Document.Token` — the tokens.
-/

import EntryTemplates.Text.Loose

set_option relaxedAutoImplicit false
set_option autoImplicit false

namespace EntryTemplates.Document

/-- What stands before a document. -/
inductive Directive where
  | version (major minor : Nat)
  | tag (handle start : String)
  | other
  deriving DecidableEq, Repr

/-- How a scalar is written. -/
inductive ScalarForm where
  | plain
  | singleQuoted
  | doubleQuoted
  | literal
  | folded
  deriving DecidableEq, Repr

/-- The tokens of a document. -/
inductive Token where
  | streamStart
  | streamEnd
  | directive (d : Directive)
  | documentStart
  | documentEnd
  | blockSequenceStart
  | blockMappingStart
  | blockEnd
  | flowSequenceStart
  | flowSequenceEnd
  | flowMappingStart
  | flowMappingEnd
  | key
  | value
  | blockEntry
  | flowEntry
  | alias (name : String)
  | anchor (name : String)
  | tag (handle : Option String) (suffix : String)
  | scalar (text : Text.Loose) (form : ScalarForm)
  deriving DecidableEq, Repr, Inhabited

end EntryTemplates.Document
