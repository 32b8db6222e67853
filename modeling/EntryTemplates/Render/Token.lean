/-
**The tokens of a template.**

Main definitions:

* `EntryTemplates.Render.Token` — text between tags, the ends of tags, and what stands inside them;
* `EntryTemplates.Render.Token.description` — how reports call a token;
* `EntryTemplates.Render.Located` — a token with its line;
* `EntryTemplates.Render.Feed` — tokens, and the failure behind the last one.
-/

import EntryTemplates.Render.Failure

set_option relaxedAutoImplicit false
set_option autoImplicit false

namespace EntryTemplates.Render

/-- The tokens of a template. -/
inductive Token where
  /-- Text between tags. -/
  | data (s : String)
  | variableStart
  | variableEnd
  | blockStart
  | blockEnd
  | name (s : String)
  | integer (n : Nat)
  | float (x : Float)
  | string (s : String)
  /-- An operator or a bracket. -/
  | symbol (s : String)
  /-- The end of the template. -/
  | stop
  deriving Inhabited

namespace Token

/-- How reports call a token. -/
def description : Token → String
  | .data _ => "template data / text"
  | .variableStart => "begin of print statement"
  | .variableEnd => "end of print statement"
  | .blockStart => "begin of statement block"
  | .blockEnd => "end of statement block"
  | .name s => s
  | .integer _ => "integer"
  | .float _ => "float"
  | .string _ => "string"
  | .symbol s => s
  | .stop => "end of template"

/-- Whether a token is a given name. -/
def isName (t : Token) (s : String) : Bool :=
  match t with
  | .name n => n = s
  | _ => false

/-- Whether a token is a given symbol. -/
def isSymbol (t : Token) (s : String) : Bool :=
  match t with
  | .symbol n => n = s
  | _ => false

/-- Whether a token ends a tag that prints. -/
def isVariableEnd : Token → Bool
  | .variableEnd => true
  | _ => false

/-- Whether a token ends any other tag. -/
def isBlockEnd : Token → Bool
  | .blockEnd => true
  | _ => false

/-- Whether a token is the end of the template. -/
def isStop : Token → Bool
  | .stop => true
  | _ => false

end Token

/-- A token with its line. -/
structure Located where
  token : Token
  line : Nat
  deriving Inhabited

/-- Tokens, and what is wrong behind the last one, if the template is malformed there. -/
structure Feed where
  tokens : List Located
  failure : Option Malformed

end EntryTemplates.Render
