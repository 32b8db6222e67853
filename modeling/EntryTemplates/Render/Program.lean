/-
**The syntax of templates.**

Main definitions:

* `EntryTemplates.Render.Expr` — expressions;
* `EntryTemplates.Render.Target` — what a value can be bound to;
* `EntryTemplates.Render.Stmt` — statements;
* `EntryTemplates.Render.Stmt.mentions` — whether a name occurs in statements;
* `EntryTemplates.Render.Expr.size`, `EntryTemplates.Render.Stmt.size` — how large they are.
-/

import EntryTemplates.Render.Value

set_option relaxedAutoImplicit false
set_option autoImplicit false

namespace EntryTemplates.Render

/-- Operations on two values. -/
inductive Operation where
  | add
  | sub
  | mul
  | div
  | floorDiv
  | mod
  | pow
  deriving DecidableEq, Repr

/-- Comparisons. -/
inductive Comparison where
  | equal
  | notEqual
  | less
  | lessOrEqual
  | greater
  | greaterOrEqual
  | within
  | notWithin
  deriving DecidableEq, Repr

/-- Expressions. -/
inductive Expr where
  | constant (v : Value)
  | name (s : String)
  | tuple (items : List Expr)
  | list (items : List Expr)
  | map (entries : List (Expr × Expr))
  /-- One of two expressions; the second one may be left out. -/
  | choice (test yes : Expr) (no : Option Expr) (line : Nat)
  | either (a b : Expr)
  | both (a b : Expr)
  | negation (a : Expr)
  | compare (a : Expr) (more : List (Comparison × Expr))
  | binary (op : Operation) (a b : Expr)
  | concat (items : List Expr)
  | minus (a : Expr)
  | plus (a : Expr)
  | attribute (a : Expr) (name : String)
  | item (a index : Expr)
  | slice (start stop step : Option Expr)
  | call (f : Expr) (args : List Expr) (named : List (String × Expr)) (rest restNamed : Option Expr)
  /-- A filter; without an expression it stands for the text of a block. -/
  | filter (a : Option Expr) (name : String) (args : List Expr) (named : List (String × Expr))
      (rest restNamed : Option Expr)
  | test (a : Expr) (name : String) (args : List Expr) (named : List (String × Expr))
      (rest restNamed : Option Expr)
  deriving Inhabited

/-- What a value can be bound to. -/
inductive Target where
  | name (s : String)
  | tuple (items : List Target)
  /-- An attribute of a namespace. -/
  | attribute (object name : String)
  deriving Inhabited

/-- A parameter of a macro, with its default if it has one. -/
abbrev Parameter := String × Option Expr

/-- Statements. -/
inductive Stmt where
  | text (s : String)
  | print (e : Expr)
  | loop (target : Target) (items : Expr) (test : Option Expr) (isRecursive : Bool)
      (body otherwise : List Stmt)
  | branch (cases : List (Expr × List Stmt)) (otherwise : List Stmt)
  | assign (target : Target) (e : Expr)
  | assignBlock (target : Target) (filter : Option Expr) (body : List Stmt)
  | scope (bindings : List (Target × Expr)) (body : List Stmt)
  | escaping (e : Expr) (body : List Stmt)
  /-- A part with a name; a scoped one sees the names around it. -/
  | block (name : String) (isScoped isRequired : Bool) (body : List Stmt)
  | extend (e : Expr)
  | insert (e : Expr) (ignoresMissing : Bool)
  | load (e : Expr)
  | define (name : String) (params : List Parameter) (body : List Stmt)
  | call (params : List Parameter) (call : Expr) (body : List Stmt)
  | filterBlock (filter : Expr) (body : List Stmt)
  deriving Inhabited

/-! ### Names that occur -/

mutual

/-- Whether a name occurs in an expression. -/
def Expr.mentions (s : String) : Expr → Bool
  | .constant _ => false
  | .name n => n = s
  | .tuple items => mentionsAny s items
  | .list items => mentionsAny s items
  | .map entries => mentionsEntry s entries
  | .choice test yes no _ => test.mentions s || yes.mentions s || mentionsOption s no
  | .either a b => a.mentions s || b.mentions s
  | .both a b => a.mentions s || b.mentions s
  | .negation a => a.mentions s
  | .compare a more => a.mentions s || mentionsOperand s more
  | .binary _ a b => a.mentions s || b.mentions s
  | .concat items => mentionsAny s items
  | .minus a => a.mentions s
  | .plus a => a.mentions s
  | .attribute a _ => a.mentions s
  | .item a index => a.mentions s || index.mentions s
  | .slice a b c => mentionsOption s a || mentionsOption s b || mentionsOption s c
  | .call f args named rest restNamed =>
      f.mentions s || mentionsAny s args || mentionsNamed s named || mentionsOption s rest
        || mentionsOption s restNamed
  | .filter a _ args named rest restNamed =>
      mentionsOption s a || mentionsAny s args || mentionsNamed s named || mentionsOption s rest
        || mentionsOption s restNamed
  | .test a _ args named rest restNamed =>
      a.mentions s || mentionsAny s args || mentionsNamed s named || mentionsOption s rest
        || mentionsOption s restNamed

/-- Whether a name occurs in one of several expressions. -/
def mentionsAny (s : String) : List Expr → Bool
  | [] => false
  | e :: es => e.mentions s || mentionsAny s es

/-- Whether a name occurs in an expression, if there is one. -/
def mentionsOption (s : String) : Option Expr → Bool
  | none => false
  | some e => e.mentions s

/-- Whether a name occurs in the entries of a mapping. -/
def mentionsEntry (s : String) : List (Expr × Expr) → Bool
  | [] => false
  | (k, v) :: rest => k.mentions s || v.mentions s || mentionsEntry s rest

/-- Whether a name occurs in named arguments. -/
def mentionsNamed (s : String) : List (String × Expr) → Bool
  | [] => false
  | (_, e) :: rest => e.mentions s || mentionsNamed s rest

/-- Whether a name occurs in what is compared. -/
def mentionsOperand (s : String) : List (Comparison × Expr) → Bool
  | [] => false
  | (_, e) :: rest => e.mentions s || mentionsOperand s rest

end

/-- Whether a name occurs in the defaults of parameters. -/
def mentionsDefault (s : String) (params : List Parameter) : Bool :=
  params.any fun p => mentionsOption s p.2

mutual

/-- Whether a name occurs in a statement; a scoped block is taken to use the loop around it, and
nothing else in a block counts. -/
def Stmt.mentions (s : String) : Stmt → Bool
  | .text _ => false
  | .print e => e.mentions s
  | .loop _ items test _ body otherwise =>
      items.mentions s || mentionsOption s test || stmtsMention s body || stmtsMention s otherwise
  | .branch cases otherwise => casesMention s cases || stmtsMention s otherwise
  | .assign _ e => e.mentions s
  | .assignBlock _ filter body => mentionsOption s filter || stmtsMention s body
  | .scope bindings body => bindings.any (fun b => b.2.mentions s) || stmtsMention s body
  | .escaping e body => e.mentions s || stmtsMention s body
  | .block _ isScoped _ _ => isScoped && s = "loop"
  | .extend e => e.mentions s
  | .insert e _ => e.mentions s
  | .load e => e.mentions s
  | .define _ params body => mentionsDefault s params || stmtsMention s body
  | .call params call body => mentionsDefault s params || call.mentions s || stmtsMention s body
  | .filterBlock filter body => filter.mentions s || stmtsMention s body

/-- Whether a name occurs in statements. -/
def stmtsMention (s : String) : List Stmt → Bool
  | [] => false
  | t :: ts => t.mentions s || stmtsMention s ts

/-- Whether a name occurs in the cases of a branch. -/
def casesMention (s : String) : List (Expr × List Stmt) → Bool
  | [] => false
  | (e, body) :: rest => e.mentions s || stmtsMention s body || casesMention s rest

end

/-! ### Sizes

The size of an expression or a statement bounds how deep its parts lie in it.  Each part counts for
as many steps as lie between it and what it is a part of while a template is rendered. -/

mutual

/-- The size of an expression. -/
def Expr.size : Expr → Nat
  | .constant _ => 1
  | .name _ => 1
  | .tuple items => 1 + sizeOfAll items
  | .list items => 1 + sizeOfAll items
  | .map entries => 2 + sizeOfEntries entries
  | .choice test yes no _ => 1 + test.size + yes.size + sizeOfOption no
  | .either a b => 1 + a.size + b.size
  | .both a b => 1 + a.size + b.size
  | .negation a => 1 + a.size
  | .compare a more => 1 + a.size + sizeOfOperands more
  | .binary _ a b => 1 + a.size + b.size
  | .concat items => 1 + sizeOfAll items
  | .minus a => 1 + a.size
  | .plus a => 1 + a.size
  | .attribute a _ => 1 + a.size
  | .item a index => 1 + a.size + index.size
  | .slice a b c => 2 + sizeOfOption a + sizeOfOption b + sizeOfOption c
  | .call f args named rest restNamed =>
      3 + f.size + sizeOfAll args + sizeOfNamed named + sizeOfOption rest + sizeOfOption restNamed
  | .filter a _ args named rest restNamed =>
      3 + sizeOfOption a + sizeOfAll args + sizeOfNamed named + sizeOfOption rest
        + sizeOfOption restNamed
  | .test a _ args named rest restNamed =>
      2 + a.size + sizeOfAll args + sizeOfNamed named + sizeOfOption rest + sizeOfOption restNamed

/-- The size of several expressions. -/
def sizeOfAll : List Expr → Nat
  | [] => 0
  | e :: es => e.size + sizeOfAll es

/-- The size of an expression, if there is one. -/
def sizeOfOption : Option Expr → Nat
  | none => 0
  | some e => e.size

/-- The size of the entries of a mapping. -/
def sizeOfEntries : List (Expr × Expr) → Nat
  | [] => 0
  | (k, v) :: rest => k.size + v.size + sizeOfEntries rest

/-- The size of named arguments. -/
def sizeOfNamed : List (String × Expr) → Nat
  | [] => 0
  | (_, e) :: rest => e.size + sizeOfNamed rest

/-- The size of what is compared; each comparison lies in the one before. -/
def sizeOfOperands : List (Comparison × Expr) → Nat
  | [] => 1
  | (_, e) :: rest => 1 + e.size + sizeOfOperands rest

end

mutual

/-- The size of a statement. -/
def Stmt.size : Stmt → Nat
  | .text _ => 1
  | .print e => 1 + e.size
  | .loop _ items test _ body otherwise =>
      4 + items.size + sizeOfOption test + sizeOfStmts body + sizeOfStmts otherwise
  | .branch cases otherwise => 1 + sizeOfCases cases + sizeOfStmts otherwise
  | .assign _ e => 1 + e.size
  | .assignBlock _ filter body => 2 + sizeOfOption filter + sizeOfStmts body
  | .scope bindings body => 1 + sizeOfBindings bindings + sizeOfStmts body
  | .escaping e body => 1 + e.size + sizeOfStmts body
  | .block _ _ _ body => 3 + sizeOfStmts body
  | .extend e => 1 + e.size
  | .insert e _ => 1 + e.size
  | .load e => 1 + e.size
  | .define _ _ body => 3 + sizeOfStmts body
  | .call _ call body => 3 + call.size + sizeOfStmts body
  | .filterBlock filter body => 3 + filter.size + sizeOfStmts body

/-- The size of several statements. -/
def sizeOfStmts : List Stmt → Nat
  | [] => 1
  | s :: rest => s.size + sizeOfStmts rest

/-- The size of the cases of a branch; each case lies in the one before. -/
def sizeOfCases : List (Expr × List Stmt) → Nat
  | [] => 1
  | (e, body) :: rest => 1 + e.size + sizeOfStmts body + sizeOfCases rest

/-- The size of what names are bound to. -/
def sizeOfBindings : List (Target × Expr) → Nat
  | [] => 0
  | (_, e) :: rest => e.size + sizeOfBindings rest

end

end EntryTemplates.Render
