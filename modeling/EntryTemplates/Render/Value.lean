/-
**The values of the template language.**

Main definitions:

* `EntryTemplates.Render.Value` — values;
* `EntryTemplates.Render.Value.ofDatum` — data as values;
* `EntryTemplates.Render.Value.shown`, `EntryTemplates.Render.Value.asText` — the texts of a value;
* `EntryTemplates.Render.Value.isTrue`, `typeName`, `items` — questions about a value.
-/

import EntryTemplates.Datum
import EntryTemplates.Render.Failure

set_option relaxedAutoImplicit false
set_option autoImplicit false

namespace EntryTemplates.Render

/-- The views of a mapping. -/
inductive View where
  | keys
  | values
  | items
  deriving DecidableEq, Repr

/-- What is there without being defined. -/
inductive Builtin where
  | range
  | dict
  | lipsum
  | cycler
  | joiner
  | namespaceOf
  deriving DecidableEq, Repr

/-- Values. -/
inductive Value where
  /-- A value that is not there; a strict one may not even be printed. -/
  | undefined (message : Wording) (isStrict : Bool)
  | null
  | bool (b : Bool)
  | int (i : Int)
  | float (x : Float)
  /-- A text; a safe one needs no escaping. -/
  | text (s : String) (isSafe : Bool)
  | list (items : List Value)
  | tuple (items : List Value)
  | map (entries : List (Value × Value))
  | range (start stop step : Int)
  | view (kind : View) (items : List Value)
  /-- Items that are handed out one by one. -/
  | stream (items : List Value)
  /-- A part of a sequence, as an index. -/
  | slice (start stop step : Value)
  | method (receiver : Value) (name : String)
  | builtin (b : Builtin)
  /-- An object with a state: a macro, a loop, a block, a namespace. -/
  | object (number : Nat)
  /-- Data of a kind that templates do not make themselves. -/
  | datum (d : Datum)
  deriving Inhabited

namespace Value

/-- A text that may need escaping. -/
def ofString (s : String) : Value := .text s false

mutual

/-- Data as a value. -/
def ofDatum : Datum → Value
  | .null => .null
  | .bool b => .bool b
  | .int i => .int i
  | .float x => .float x
  | .text s => .text s false
  | .list items => .list (ofData items)
  | .tuple items => .tuple (ofData items)
  | .map entries => .map (ofEntries entries)
  | .loose t => .datum (.loose t)
  | .bytes bs => .datum (.bytes bs)
  | .date year month day => .datum (.date year month day)
  | .moment m => .datum (.moment m)
  | .set items => .datum (.set items)
  | .again curly => .datum (.again curly)

/-- Several data as values. -/
def ofData : List Datum → List Value
  | [] => []
  | d :: ds => ofDatum d :: ofData ds

/-- The entries of a mapping as values. -/
def ofEntries : List (Datum × Datum) → List (Value × Value)
  | [] => []
  | (k, v) :: rest => (ofDatum k, ofDatum v) :: ofEntries rest

end

/-- The name of a view. -/
def viewName : View → String
  | .keys => "dict_keys"
  | .values => "dict_values"
  | .items => "dict_items"

/-- What is there without being defined, as text. -/
def builtinText : Builtin → String
  | .range => "<class 'range'>"
  | .dict => "<class 'dict'>"
  | .lipsum => "<function generate_lorem_ipsum>"
  | .cycler => "<class 'jinja2.utils.Cycler'>"
  | .joiner => "<class 'jinja2.utils.Joiner'>"
  | .namespaceOf => "<class 'jinja2.utils.Namespace'>"

/-- A range as text. -/
def rangeText (start stop step : Int) : Wording := do
  let bounds := (← Number.intText start) ++ ", " ++ (← Number.intText stop)
  if step = 1 then return "range(" ++ bounds ++ ")"
  else return "range(" ++ bounds ++ ", " ++ (← Number.intText step) ++ ")"

/-- The number of steps from `start` before `stop` is reached. -/
def rangeCount (start stop step : Int) : Nat :=
  if 0 < step then (Int.fdiv (stop - start + step - 1) step).toNat
  else if step < 0 then (Int.fdiv (start - stop - step - 1) (-step)).toNat
  else 0

/-- The numbers of a range. -/
def rangeItems (start stop step : Int) : List Value :=
  (List.range (rangeCount start stop step)).map fun (k : Nat) => .int (start + step * k)

mutual

/-- A value as it stands inside a collection; `describe` tells the texts of objects. -/
def shown (describe : Nat → Wording) : Value → Wording
  | .undefined .. => .ok "Undefined"
  | .null => .ok "None"
  | .bool b => .ok (Datum.boolText b)
  | .int i => Number.intText i
  | .float x => .ok (Number.floatText x)
  | .text s isSafe =>
      .ok (if isSafe then "Markup(" ++ Text.quotedString s ++ ")" else Text.quotedString s)
  | .list items => do return "[" ++ ", ".intercalate (← shownAll describe items) ++ "]"
  | .tuple items => do return Datum.tupleText (← shownAll describe items)
  | .map entries => do
      return "\x7b" ++ ", ".intercalate (← shownEntries describe entries) ++ "\x7d"
  | .range start stop step => rangeText start stop step
  | .view kind items => do
      return viewName kind ++ "([" ++ ", ".intercalate (← shownAll describe items) ++ "])"
  | .stream _ => .ok "<generator object>"
  | .slice a b c => do
      return "slice(" ++ (← shown describe a) ++ ", " ++ (← shown describe b) ++ ", "
        ++ (← shown describe c) ++ ")"
  | .method _ name => .ok ("<built-in method " ++ name ++ ">")
  | .builtin b => .ok (builtinText b)
  | .object n => describe n
  | .datum d => d.shown

/-- Values as they stand inside a collection. -/
def shownAll (describe : Nat → Wording) : List Value → Except Number.TooLong (List String)
  | [] => .ok []
  | v :: vs => do return (← shown describe v) :: (← shownAll describe vs)

/-- Entries of a mapping as they stand inside it. -/
def shownEntries (describe : Nat → Wording) :
    List (Value × Value) → Except Number.TooLong (List String)
  | [] => .ok []
  | (k, v) :: rest => do
      return ((← shown describe k) ++ ": " ++ (← shown describe v)) :: (← shownEntries describe rest)

end

/-- **The text of a value**; a strict undefined value has none, nor has a number of too many
digits. -/
def asText (describe : Nat → Wording) : Value → Except Failure String
  | .undefined message isStrict => if isStrict then .error (.undefined message) else .ok ""
  | .text s _ => .ok s
  | .datum d => d.asText.mapError .tooLong
  | v => (shown describe v).mapError .tooLong

/-- Whether a value counts as true. -/
def isTrue : Value → Except Failure Bool
  | .undefined message isStrict => if isStrict then .error (.undefined message) else .ok false
  | .null => .ok false
  | .bool b => .ok b
  | .int i => .ok (i ≠ 0)
  | .float x => .ok (x != 0)
  | .text s _ => .ok (s ≠ "")
  | .list items => .ok (!items.isEmpty)
  | .tuple items => .ok (!items.isEmpty)
  | .map entries => .ok (!entries.isEmpty)
  | .range start stop step => .ok (rangeCount start stop step ≠ 0)
  | .view _ items => .ok (!items.isEmpty)
  | .datum d => .ok d.isTrue
  | _ => .ok true

/-- The name of a value's type; `typeOf` tells the types of objects. -/
def typeName (typeOf : Nat → String) : Value → String
  | .undefined _ isStrict => if isStrict then "StrictUndefined" else "Undefined"
  | .null => "NoneType"
  | .bool _ => "bool"
  | .int _ => "int"
  | .float _ => "float"
  | .text _ isSafe => if isSafe then "Markup" else "str"
  | .list _ => "list"
  | .tuple _ => "tuple"
  | .map _ => "dict"
  | .range .. => "range"
  | .view kind _ => viewName kind
  | .stream _ => "generator"
  | .slice .. => "slice"
  | .method .. => "builtin_function_or_method"
  | .builtin .lipsum => "function"
  | .builtin _ => "type"
  | .object n => typeOf n
  | .datum d => d.typeName

/-- What reports on missing parts call a value. -/
def ownerName (typeOf : Nat → String) (v : Value) : String :=
  match v with
  | .null => "None"
  | .text _ true => "markupsafe.Markup object"
  | v => v.typeName typeOf ++ " object"

/-- An operation on values of unsuitable types. -/
def wrongType {α : Type} (message : String) : Except Failure α := .error (.mishap .wrongType message)

/-- **The items of a value**, if it has items. -/
def items (typeOf : Nat → String) : Value → Except Failure (List Value)
  | .undefined message isStrict => if isStrict then .error (.undefined message) else .ok []
  | .text s isSafe => .ok (s.toList.map fun c => .text (String.singleton c) isSafe)
  | .list items => .ok items
  | .tuple items => .ok items
  | .map entries => .ok (entries.map Prod.fst)
  | .range start stop step => .ok (rangeItems start stop step)
  | .view _ items => .ok items
  | .stream items => .ok items
  | .datum (.set items) => .ok (ofData items)
  | v => wrongType ("'" ++ v.typeName typeOf ++ "' object is not iterable")

end Value

end EntryTemplates.Render
