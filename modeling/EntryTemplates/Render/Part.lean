/-
**Parts of values.**

`x.name` is an attribute or a method of a value, and where there is none, what the value holds under
the name; `x[index]` is what the value holds, and where there is nothing, the attribute.  What is
neither is an undefined value, which tells what was looked for.

Main definitions:

* `EntryTemplates.Render.member` — `x.name`;
* `EntryTemplates.Render.item` — `x[index]`;
* `EntryTemplates.Render.path` — parts of parts, as filters name them.
-/

import EntryTemplates.Number.Read
import EntryTemplates.Render.Memory

set_option relaxedAutoImplicit false
set_option autoImplicit false

namespace EntryTemplates.Render

/-- The methods of texts. -/
def textMethods : List String :=
  ["capitalize", "casefold", "center", "count", "endswith", "find", "format", "index", "isalnum",
    "isalpha", "isascii", "isdecimal", "isdigit", "islower", "isspace", "istitle", "isupper",
    "join", "ljust", "lower", "lstrip", "partition", "removeprefix", "removesuffix", "replace",
    "rfind", "rindex", "rjust", "rpartition", "rsplit", "rstrip", "split", "splitlines",
    "startswith", "strip", "swapcase", "title", "upper", "zfill"]

/-- The methods that change lists. -/
def listChanges : List String :=
  ["append", "clear", "extend", "insert", "pop", "remove", "reverse", "sort"]

/-- The methods that change mappings. -/
def mapChanges : List String := ["clear", "pop", "setdefault", "update"]

/-- The methods of mappings. -/
def mapMethods : List String := ["keys", "values", "items", "get", "copy"] ++ mapChanges

/-- Whether a value has a method of a name. -/
def hasMethod (v : Value) (name : String) : Bool :=
  match v with
  | .text .. => name ∈ textMethods
  | .list _ => name ∈ ["copy", "count", "index"] ++ listChanges
  | .tuple _ => name ∈ ["count", "index"]
  | .range .. => name ∈ ["count", "index"]
  | .map _ => name ∈ mapMethods
  | .int _ => name ∈ ["bit_length", "conjugate"]
  | .float _ => name ∈ ["is_integer", "conjugate"]
  | _ => false

/-- An undefined value. -/
def absent (message : String) : Value := .undefined (.ok message) true

/-- An attribute of a loop. -/
def Loop.attribute? (l : Loop) (number : Nat) (name : String) : Option Value :=
  let count := l.items.size
  match name with
  | "index" => some (.int (l.place + 1))
  | "index0" => some (.int l.place)
  | "revindex" => some (.int (count - l.place))
  | "revindex0" => some (.int (count - l.place - 1))
  | "first" => some (.bool (l.place = 0))
  | "last" => some (.bool (l.place + 1 = count))
  | "length" => some (.int count)
  | "depth" => some (.int (l.depth + 1))
  | "depth0" => some (.int l.depth)
  | "previtem" =>
      some (if l.place = 0 then absent "there is no previous item"
        else l.items.getD (l.place - 1) .null)
  | "nextitem" => some (l.items.getD (l.place + 1) (absent "there is no next item"))
  | "cycle" => some (.method (.object number) name)
  | "changed" => some (.method (.object number) name)
  | _ => none

/-- An attribute of a macro. -/
def Macro.attribute? (f : Macro) (name : String) : Option Value :=
  match name with
  | "name" => some (match f.name with
      | some s => .ofString s
      | none => .null)
  | "arguments" => some (.tuple (f.params.map fun p => .ofString p.1))
  | "caller" => some (.bool f.takesCaller)
  | "catch_kwargs" => some (.bool f.takesNamed)
  | "catch_varargs" => some (.bool f.takesMore)
  | _ => none

/-- An attribute of an object. -/
def Object.attribute? (o : Object) (number : Nat) (name : String) : Except Failure (Option Value) :=
  match o with
  | .loop l => .ok (l.attribute? number name)
  | .procedure f => .ok (f.attribute? name)
  | .cycler items place =>
      match name with
      | "current" => .ok items[place]?
      | "items" => .ok (some (.tuple items))
      | "pos" => .ok (some (.int place))
      | "next" => .ok (some (.method (.object number) name))
      | "reset" => .ok (some (.method (.object number) name))
      | _ => .ok none
  | .joiner mark isUsed =>
      match name with
      | "sep" => .ok (some mark)
      | "used" => .ok (some (.bool isUsed))
      | _ => .ok none
  | .space entries => Value.lookup? (.ofString name) entries
  | .blocks => .ok none
  | .block blockName => .ok (if name = "name" then some (.ofString blockName) else none)

/-- An attribute or a method of a value, if there is one. -/
def member? (v : Value) (name : String) : Eval (Option Value) := do
  match v with
  | .undefined message _ => Eval.missing message
  | .object n =>
      match ← Eval.object? n with
      | some o => o.attribute? n name
      | none => return none
  | .tuple [grouper, items] =>
      match name with
      | "grouper" => return some grouper
      | "list" => return some items
      | _ => return if hasMethod v name then some (.method v name) else none
  | .range start stop step =>
      match name with
      | "start" => return some (.int start)
      | "stop" => return some (.int stop)
      | "step" => return some (.int step)
      | _ => return if hasMethod v name then some (.method v name) else none
  | v =>
      if hasMethod v name then return some (.method v name)
      else
        match v.int?, name with
        | some i, "real" => return some (.int i)
        | some i, "numerator" => return some (.int i)
        | some _, "denominator" => return some (.int 1)
        | some _, "imag" => return some (.int 0)
        | none, "real" => return match v with
            | .float x => some (.float x)
            | _ => none
        | none, "imag" => return match v with
            | .float _ => some (.float 0)
            | _ => none
        | _, _ => return none

/-- What a value holds under an index, if it holds anything. -/
def held? (v index : Value) : Eval (Option Value) := do
  match v with
  | .object n =>
      match ← Eval.object? n, index with
      | some .blocks, .text name _ =>
          if ((← get).blocks.lookup name).isSome then
            return some (← Eval.create (.block name))
          else return none
      | _, _ => return none
  | v => v.itemOf? index

/-- The undefined value that stands for a part that is missing. -/
def missingPart (v index : Value) : Eval Value := do
  let m ← get
  let owner := m.ownerName v
  match index with
  | .text name _ =>
      return absent (Text.quotedString owner ++ " has no attribute " ++ Text.quotedString name)
  | index =>
      -- the index is written only where the message is needed
      let message := do return owner ++ " has no element " ++ (← index.shown m.describe)
      return .undefined message true

/-- **`x.name`.** -/
def member (v : Value) (name : String) : Eval Value := do
  match ← member? v name with
  | some part => return part
  | none =>
      match ← held? v (.ofString name) with
      | some part => return part
      | none => missingPart v (.ofString name)

/-- **`x[index]`.** -/
def item (v index : Value) : Eval Value := do
  match v with
  | .undefined message _ => Eval.missing message
  | v =>
      match ← held? v index with
      | some part => return part
      | none =>
          match index with
          | .text name _ =>
              match ← member? v name with
              | some part => return part
              | none => missingPart v index
          | index => missingPart v index

/-- `x[start:stop:step]`. -/
def sliced (v start stop step : Value) : Eval Value := do
  let index : Value := .slice start stop step
  match v with
  | .undefined message _ => Eval.missing message
  | .map _ => Eval.wrongType "unhashable type: 'slice'"
  | v =>
      match ← held? v index with
      | some part => return part
      | none =>
          match v with
          | .text .. | .list _ | .tuple _ | .range .. =>
              if step.int? = some 0 then Eval.fail .wrongValue "slice step cannot be zero"
              else
                Eval.wrongType
                  "slice indices must be integers or None or have an __index__ method"
          | v =>
              Eval.wrongType ("'" ++ (← Eval.typeName v) ++ "' object is not subscriptable")

/-! ### Paths -/

/-- One step of a path: digits are an index. -/
def pathStep (s : String) : Value :=
  if s ≠ "" && s.toList.all (fun c => (Number.decimalValue? c).isSome) then
    .int (Number.ofDigits (s.toList.filterMap Number.decimalValue?))
  else .ofString s

/-- The steps of a path: names and numbers with points between them. -/
def pathSteps : Value → List Value
  | .null => []
  | .text s _ => (Text.splitAtChar '.' s.toList).map fun part => pathStep (String.ofList part)
  | v => [v]

/-- The part that a path leads to; `standard` stands for a part that is missing. -/
def follow (standard : Option Value) : List Value → Value → Eval Value
  | [], v => return v
  | s :: rest, v => do
      let part ← item v s
      match part, standard with
      | .undefined .., some w => follow standard rest w
      | part, _ => follow standard rest part

/-- **The part that a path leads to.** -/
def path (steps : Value) (standard : Option Value) (v : Value) : Eval Value :=
  follow standard (pathSteps steps) v

end EntryTemplates.Render
