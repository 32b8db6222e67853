/-
**Rendering a template with a context.**

A mishap may be that something is nested too deeply, but the stack never runs out before that, and a
value may be as large as it likes.  Where chance would choose, there is a mishap of its own.  Left
out are names of characters in a literal, numbers with a point that are too large for one, attributes
that begin with two low lines, the bytes of a text, powers that are complex numbers, arguments and
parameters of one name, templates with more than twenty loops or a hundred branches inside each
other, and the place in memory that the text of a function tells.  The halves of a content are not
followed: it is rendered in its shape.

Main definitions:

* `EntryTemplates.Render.Context` — names with their values;
* `EntryTemplates.Render.compile` — a template that is ready to be rendered;
* `EntryTemplates.Render.Compiled.run`, `EntryTemplates.Render.render` — the text that a template
  makes with a context.
-/

import EntryTemplates.Render.Evaluate
import EntryTemplates.Render.Parse

set_option relaxedAutoImplicit false
set_option autoImplicit false

namespace EntryTemplates.Render

/-- Names with their values, in order. -/
abbrev Context := List (String × Datum)

/-- A context with a name bound; a name that was bound before keeps its place. -/
def Context.bind (name : String) (value : Datum) : Context → Context
  | [] => [(name, value)]
  | (n, v) :: rest => if n = name then (n, value) :: rest else (n, v) :: bind name value rest

/-- The line break of what a template makes: that of the template, if it has any with a carriage
return. -/
def lineBreakOf (content : List Char) : String :=
  if Text.occursIn ['\r', '\n'] content then "\r\n" else "\n"

/-- The memory at the start: the names of a context in one scope. -/
def Memory.start (context : Context) (blocks : List (String × List Stmt)) (lineBreak : String) :
    Memory :=
  let names := context.map fun (name, v) => (name, Value.ofDatum v)
  ⟨#[⟨("self", .object 0) :: names, none⟩], #[.blocks], false, blocks, lineBreak⟩

/-- A template that is ready to be rendered. -/
structure Compiled where
  stmts : List Stmt
  blocks : List (String × List Stmt)
  lineBreak : String

/-- How deep calls may be nested while a template is rendered: as deep as its statements ask for, and
deeper still for macros that call each other. -/
def Compiled.depth (p : Compiled) : Nat := sizeOfStmts p.stmts + 3000

/-- **A template made ready**, unless it is malformed. -/
def compile (content : String) : Except Malformed Compiled := do
  let source := content.toList
  let lineBreak := lineBreakOf source
  let stmts ← parse (tokensOf lineBreak.toList (Text.unifyBreaks source))
  let blocks ← check stmts
  return ⟨stmts, blocks, lineBreak⟩

/-- The text that a template makes with a context once it is ready. -/
def Compiled.run (p : Compiled) (depth : Nat) (context : Context) : Except Failure String :=
  if context.any fun (name, _) => name = "self" then
    .error (.mishap .wrongType "Template.render() got multiple values for argument 'self'")
  else (runBody depth 0 p.stmts).run' (Memory.start context p.blocks p.lineBreak)

/-- **The text that a template makes with a context.** -/
def render (content : String) (context : Context) : Except Failure String :=
  match compile content with
  | .ok p => p.run p.depth context
  | .error e => .error (.malformed e)

end EntryTemplates.Render
