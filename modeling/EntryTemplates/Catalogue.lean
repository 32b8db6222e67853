/-
**Catalogues of templates.**

A catalogue holds at most one template for each framework and style, in the order in which they
were first registered.

Main definitions:

* `EntryTemplates.Catalogue` — the templates;
* `EntryTemplates.Catalogue.register` — one more template, or another one in an old place;
* `EntryTemplates.Catalogue.get`, `content`, `list`, `holds` — looking templates up by any names;
* `EntryTemplates.Catalogue.render` — the text that a template makes with a context.
-/

import EntryTemplates.Fault
import EntryTemplates.Render

set_option relaxedAutoImplicit false
set_option autoImplicit false

namespace EntryTemplates

/-- Templates in the order in which they were first registered. -/
structure Catalogue where
  templates : List Template
  deriving DecidableEq, Repr

namespace Catalogue

/-- A catalogue without templates. -/
def empty : Catalogue := ⟨[]⟩

/-- The number of templates. -/
def size (c : Catalogue) : Nat := c.templates.length

/-- The template under a key. -/
def find? (c : Catalogue) (k : Key) : Option Template := c.templates.find? fun t => t.key = k

/-- Templates with one more, which takes the place of an old one under the same key. -/
def put (t : Template) : List Template → List Template
  | [] => [t]
  | u :: rest => if u.key = t.key then t :: rest else u :: put t rest

/-- **The catalogue with a template registered.**  A template under the same key may be there
already only if it is to be replaced. -/
def register (c : Catalogue) (t : Template) (replace : Bool) : Except Report Catalogue :=
  if (c.find? t.key).isSome ∧ !replace then .error (.duplicate t.key)
  else .ok ⟨put t c.templates⟩

/-! ### Looking templates up -/

/-- A framework and a style of which one is not known, as they were given; the report cannot be made
if one of them has no text. -/
def unknownPair (framework style : Argument) : Fault :=
  match framework.label, style.label with
  | .ok f, .ok s => .report (.notFound f s)
  | .error n, _ => .tooLong n
  | _, .error n => .tooLong n

/-- The key that a framework and a style mean. -/
def resolve (framework style : Argument) : Except Fault Key :=
  match (framework.parse : Except NoMember Framework), (style.parse : Except NoMember Style) with
  | .ok f, .ok s => .ok ⟨f, s⟩
  | _, _ => .error (unknownPair framework style)

/-- **The template for a framework and a style.** -/
def get (c : Catalogue) (framework style : Argument) : Except Fault Template := do
  let k ← resolve framework style
  match c.find? k with
  | some t => .ok t
  | none => .error (.report (.notFound k.framework.name k.style.name))

/-- The content of the template for a framework and a style. -/
def content (c : Catalogue) (framework style : Argument) : Except Fault String :=
  (c.get framework style).map Template.content

/-- The framework that an argument means; no argument, no framework. -/
def wantedFramework (a : Argument) : Except Fault (Option Framework) :=
  if a.isNull then .ok none
  else (resolve a (.member (.style .autoMain))).map fun k => some k.framework

/-- The style that an argument means; no argument, no style. -/
def wantedStyle (a : Argument) : Except Fault (Option Style) :=
  if a.isNull then .ok none
  else (resolve (.member (.framework .catch2)) a).map fun k => some k.style

/-- Whether something is what is wanted, if anything is. -/
def suits {α : Type} [DecidableEq α] (wanted : Option α) (a : α) : Bool :=
  match wanted with
  | some w => a = w
  | none => true

/-- **The templates for a framework and a style**, both of which may be left open. -/
def list (c : Catalogue) (framework style : Argument) : Except Fault (List Template) := do
  let f ← wantedFramework framework
  let s ← wantedStyle style
  return c.templates.filter fun t => suits f t.framework && suits s t.style

/-- The parts of a value that is asked for as a pair: the items of a list, the characters of a
text, the bytes, the keys of a mapping.  Any other value has no parts. -/
def partsOf? : Datum → Option (List Argument)
  | .text s => some (s.toList.map fun c => .ofString (String.singleton c))
  | .loose t => some (t.letters.map fun l => .plain (.ofLoose (.ofLetters [l])))
  | .bytes bs => some (bs.map fun b => .plain (.int b.toNat))
  | .list items => some (items.map .plain)
  | .tuple items => some (items.map .plain)
  | .set items => some (items.map .plain)
  | .map entries => some (entries.map fun (k, _) => .plain k)
  | _ => none

/-- **Whether there is a template for a framework and a style**, given as the parts of a pair. -/
def holds (c : Catalogue) (parts : List Argument) : Bool :=
  match parts with
  | [framework, style] =>
      match resolve framework style with
      | .ok k => (c.find? k).isSome
      | .error _ => false
  | _ => false

/-- Whether a value is a pair for which there is a template. -/
def holdsValue (c : Catalogue) (d : Datum) : Bool := (partsOf? d).any c.holds

/-! ### Rendering -/

/-- The failure of rendering a template as a fault: broken grammar and an undefined value are
reported, if the report can be written. -/
def renderFault (t : Template) (context : Render.Context) : Render.Failure → Fault
  | .malformed (.broken message) =>
      .report ⟨.rendering (some t.name) (context.map Prod.fst), "Template syntax error: " ++ message⟩
  | .malformed (.tooLong n) => .tooLong n
  | .undefined (.ok message) =>
      .report ⟨.rendering (some t.name) (context.map Prod.fst), "Undefined variable: " ++ message⟩
  | .undefined (.error n) => .tooLong n
  | .mishap kind message => .rendering kind message

/-- **The text that a template makes with a context**; without a context its content as it is. -/
def renderTemplate (t : Template) (context : Render.Context) : Except Fault String :=
  if context.isEmpty then .ok t.content
  else
    match Render.render t.content context with
    | .ok s => .ok s
    | .error e => .error (renderFault t context e)

/-- The text that the template for a framework and a style makes with a context. -/
def render (c : Catalogue) (framework style : Argument) (context : Render.Context) :
    Except Fault String := do
  renderTemplate (← c.get framework style) context

end Catalogue

end EntryTemplates
