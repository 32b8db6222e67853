/-
**What rendering remembers.**

Names live in scopes, each of which may lie inside another one.  Macros, loops and the like live as
objects, and a value refers to an object by its number, so that all who hold it see its changes.

Main definitions:

* `EntryTemplates.Render.Object` — objects with a state;
* `EntryTemplates.Render.Memory` — scopes and objects;
* `EntryTemplates.Render.Eval` — computations that use the memory and may fail;
* `EntryTemplates.Render.Memory.find?`, `EntryTemplates.Render.Memory.bind` — the value of a name.
-/

import EntryTemplates.Render.Operators

set_option relaxedAutoImplicit false
set_option autoImplicit false

namespace EntryTemplates.Render

/-- A macro: what it takes, its body, and the scope in which it was defined. -/
structure Macro where
  /-- The text of a `call` has no name. -/
  name : Option String
  params : List Parameter
  body : List Stmt
  scope : Nat
  /-- Whether it uses the text of a `call`. -/
  takesCaller : Bool
  /-- Whether it uses named arguments beyond its parameters. -/
  takesNamed : Bool
  /-- Whether it uses arguments beyond its parameters. -/
  takesMore : Bool

/-- What a recursive loop does again for other items. -/
structure LoopBody where
  target : Target
  test : Option Expr
  body : List Stmt
  otherwise : List Stmt
  scope : Nat

/-- A loop over some items. -/
structure Loop where
  items : Array Value
  /-- The place of the item at hand. -/
  place : Nat
  depth : Nat
  /-- What was last asked to have changed. -/
  last : Option (List Value)
  again : Option LoopBody

/-- Objects with a state. -/
inductive Object where
  | loop (l : Loop)
  | procedure (m : Macro)
  | cycler (items : List Value) (place : Nat)
  | joiner (mark : Value) (isUsed : Bool)
  | space (entries : List (Value × Value))
  /-- All blocks of the template. -/
  | blocks
  | block (name : String)

/-- Names with their values, inside another scope. -/
structure Scope where
  names : List (String × Value)
  outer : Option Nat

/-- Scopes, objects and the state of escaping. -/
structure Memory where
  scopes : Array Scope
  objects : Array Object
  /-- Whether what is printed is escaped. -/
  escapes : Bool
  blocks : List (String × List Stmt)
  lineBreak : String

/-- Computations that use the memory and may fail. -/
abbrev Eval (α : Type) := StateT Memory (Except Failure) α

namespace Object

/-- The name of an object's type. -/
def typeName : Object → String
  | .loop _ => "LoopContext"
  | .procedure _ => "Macro"
  | .cycler .. => "Cycler"
  | .joiner .. => "Joiner"
  | .space _ => "Namespace"
  | .blocks => "TemplateReference"
  | .block _ => "BlockReference"

/-- What reports on missing parts call an object. -/
def ownerName (o : Object) : String :=
  match o with
  | .loop _ | .procedure _ | .blocks | .block _ => "jinja2.runtime." ++ o.typeName ++ " object"
  | _ => "jinja2.utils." ++ o.typeName ++ " object"

end Object

namespace Memory

/-- The name of the type of the object with a number. -/
def typeOf (m : Memory) (n : Nat) : String :=
  match m.objects[n]? with
  | some o => o.typeName
  | none => "object"

/-- The text of the object with a number; `depth` bounds how deep objects lie in objects. -/
def describeWithin (m : Memory) : Nat → Nat → Wording
  | 0, _ => .ok "..."
  | depth + 1, n =>
      match m.objects[n]? with
      | some (.loop l) => .ok s!"<LoopContext {l.place + 1}/{l.items.size}>"
      | some (.procedure f) =>
          match f.name with
          | some name => .ok ("<Macro " ++ Text.quotedString name ++ ">")
          | none => .ok "<Macro anonymous>"
      | some (.space entries) => do
          return "<Namespace " ++ (← (Value.map entries).shown (describeWithin m depth)) ++ ">"
      | some .blocks => .ok "<TemplateReference None>"
      | some o => .ok ("<" ++ o.ownerName ++ ">")
      | none => .ok "object"

/-- The text of the object with a number. -/
def describe (m : Memory) (n : Nat) : Wording := describeWithin m 20 n

/-- What reports on missing parts call a value. -/
def ownerName (m : Memory) : Value → String
  | .object n =>
      match m.objects[n]? with
      | some o => o.ownerName
      | none => "object"
  | v => v.ownerName m.typeOf

/-! ### Names -/

/-- The value of a name in a scope or in one around it. -/
def findWithin (m : Memory) (name : String) : Nat → Nat → Option Value
  | 0, _ => none
  | depth + 1, scope =>
      match m.scopes[scope]? with
      | some s =>
          match s.names.lookup name with
          | some v => some v
          | none => s.outer.bind fun outer => findWithin m name depth outer
      | none => none

/-- **The value of a name**, if the scope or one around it binds the name. -/
def find? (m : Memory) (scope : Nat) (name : String) : Option Value :=
  m.findWithin name (m.scopes.size + 1) scope

/-- **The memory with a name bound in a scope.** -/
def bind (m : Memory) (scope : Nat) (name : String) (v : Value) : Memory :=
  { m with scopes := m.scopes.modify scope fun s => { s with names := (name, v) :: s.names } }

/-- The memory with a new scope, and its number. -/
def opened (m : Memory) (outer : Option Nat) : Nat × Memory :=
  (m.scopes.size, { m with scopes := m.scopes.push ⟨[], outer⟩ })

/-- The memory with a new object, and its number. -/
def add (m : Memory) (o : Object) : Nat × Memory :=
  (m.objects.size, { m with objects := m.objects.push o })

/-- The memory with an object in a new state. -/
def update (m : Memory) (n : Nat) (o : Object) : Memory :=
  { m with objects := m.objects.modify n fun _ => o }

end Memory

namespace Eval

/-- A mishap. -/
def fail {α : Type} (kind : Mishap) (message : String) : Eval α :=
  fun _ => .error (.mishap kind message)

/-- An operation on values of unsuitable types. -/
def wrongType {α : Type} (message : String) : Eval α := fail .wrongType message

/-- The failure of a value that is not there. -/
def missing {α : Type} (message : Wording) : Eval α := fun _ => .error (.undefined message)

/-- A text that shows no number of too many digits. -/
def worded (text : Wording) : Eval String := fun m =>
  match text with
  | .ok s => .ok (s, m)
  | .error n => .error (.tooLong n)

/-- A new scope inside another one. -/
def openScope (outer : Nat) : Eval Nat := fun m => .ok (m.opened (some outer))

/-- A new object. -/
def create (o : Object) : Eval Value := fun m =>
  let (n, m) := m.add o
  .ok (.object n, m)

/-- Binds a name in a scope. -/
def bind (scope : Nat) (name : String) (v : Value) : Eval Unit := fun m =>
  .ok ((), m.bind scope name v)

/-- Puts an object into a new state. -/
def update (n : Nat) (o : Object) : Eval Unit := fun m => .ok ((), m.update n o)

/-- The object with a number. -/
def object? (n : Nat) : Eval (Option Object) := fun m => .ok (m.objects[n]?, m)

/-- The text of a value. -/
def text (v : Value) : Eval String := do v.asText (← get).describe

/-- The value as it stands inside a collection. -/
def shown (v : Value) : Eval String := do worded (v.shown (← get).describe)

/-- A whole number in decimal digits. -/
def number (i : Int) : Eval String := worded (Number.intText i)

/-- The name of a value's type. -/
def typeName (v : Value) : Eval String := do return v.typeName (← get).typeOf

/-- A value that cannot be a key makes a computation fail. -/
def ensureKey (v : Value) : Eval Unit := do v.ensureKey (← get).typeOf

/-- The items of a value. -/
def items (v : Value) : Eval (List Value) := do v.items (← get).typeOf

/-- The text of a value as a value: a text that needs no escaping stays one. -/
def softText (v : Value) : Eval Value := do
  match v with
  | .text s isSafe => return .text s isSafe
  | v => return .text (← text v) false

/-- The text of a value with the characters of markup escaped, unless it needs no escaping. -/
def escaped (v : Value) : Eval String := do
  match v with
  | .text s isSafe => return Value.escapedText s isSafe
  | v => return escapeText (← text v)

/-- The text of a value as it is printed. -/
def printed (v : Value) : Eval String := do
  if (← get).escapes then escaped v else text v

/-- A text that was put together while rendering: it needs no escaping any more. -/
def made (s : String) : Eval Value := do return .text s (← get).escapes

end Eval

end EntryTemplates.Render
