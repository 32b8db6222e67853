/-
**What is wrong with a template before anything is rendered.**

Filters and tests must be there, except within a branch or a choice, where it shows only when they
are needed.  Blocks have names of their own, and nothing may take the place of the variable of a
loop.

Main definitions:

* `EntryTemplates.Render.blocksOf` — the blocks of a template;
* `EntryTemplates.Render.check` — the blocks of a template in which nothing is wrong.
-/

import EntryTemplates.Render.Test

set_option relaxedAutoImplicit false
set_option autoImplicit false

namespace EntryTemplates.Render

/-- The failure of a malformed template. -/
def malformed {α : Type} (message : String) : Except Malformed α := .error (.broken message)

/-! ### Expressions -/

/-- A name that must be among others, unless that is left open. -/
def checkName (isLoose : Bool) (kind : String) (names : List String) (name : String) :
    Except Malformed Unit :=
  if isLoose || names.contains name then .ok ()
  else malformed ("No " ++ kind ++ " named " ++ Text.quotedString name ++ ".")

mutual

/-- The filters and tests of an expression are there. -/
def checkExpr (isLoose : Bool) : Expr → Except Malformed Unit
  | .constant _ => .ok ()
  | .name _ => .ok ()
  | .tuple items => checkExprs isLoose items
  | .list items => checkExprs isLoose items
  | .map entries => checkEntries isLoose entries
  | .choice .. => .ok ()
  | .either a b => do
      checkExpr isLoose a
      checkExpr isLoose b
  | .both a b => do
      checkExpr isLoose a
      checkExpr isLoose b
  | .negation a => checkExpr isLoose a
  | .compare a more => do
      checkExpr isLoose a
      checkOperands isLoose more
  | .binary _ a b => do
      checkExpr isLoose a
      checkExpr isLoose b
  | .concat items => checkExprs isLoose items
  | .minus a => checkExpr isLoose a
  | .plus a => checkExpr isLoose a
  | .attribute a _ => checkExpr isLoose a
  | .item a index => do
      checkExpr isLoose a
      checkExpr isLoose index
  | .slice a b c => do
      checkOption isLoose a
      checkOption isLoose b
      checkOption isLoose c
  | .call f args named rest restNamed => do
      checkExpr isLoose f
      checkExprs isLoose args
      checkNamed isLoose named
      checkOption isLoose rest
      checkOption isLoose restNamed
  | .filter a name args named rest restNamed => do
      checkName isLoose "filter" filterNames name
      checkOption isLoose a
      checkExprs isLoose args
      checkNamed isLoose named
      checkOption isLoose rest
      checkOption isLoose restNamed
  | .test a name args named rest restNamed => do
      checkName isLoose "test" testNames name
      checkExpr isLoose a
      checkExprs isLoose args
      checkNamed isLoose named
      checkOption isLoose rest
      checkOption isLoose restNamed

/-- The filters and tests of several expressions are there. -/
def checkExprs (isLoose : Bool) : List Expr → Except Malformed Unit
  | [] => .ok ()
  | e :: es => do
      checkExpr isLoose e
      checkExprs isLoose es

/-- The filters and tests of an expression are there, if there is one. -/
def checkOption (isLoose : Bool) : Option Expr → Except Malformed Unit
  | none => .ok ()
  | some e => checkExpr isLoose e

/-- The filters and tests in the entries of a mapping are there. -/
def checkEntries (isLoose : Bool) : List (Expr × Expr) → Except Malformed Unit
  | [] => .ok ()
  | (k, v) :: rest => do
      checkExpr isLoose k
      checkExpr isLoose v
      checkEntries isLoose rest

/-- The filters and tests of named arguments are there. -/
def checkNamed (isLoose : Bool) : List (String × Expr) → Except Malformed Unit
  | [] => .ok ()
  | (_, e) :: rest => do
      checkExpr isLoose e
      checkNamed isLoose rest

/-- The filters and tests of what is compared are there. -/
def checkOperands (isLoose : Bool) : List (Comparison × Expr) → Except Malformed Unit
  | [] => .ok ()
  | (_, e) :: rest => do
      checkExpr isLoose e
      checkOperands isLoose rest

end

/-! ### Targets -/

mutual

/-- Whether a name is bound by a target. -/
def Target.binds (s : String) : Target → Bool
  | .name n => n = s
  | .tuple items => bindsAny s items
  | .attribute .. => false

/-- Whether a name is bound by one of several targets. -/
def bindsAny (s : String) : List Target → Bool
  | [] => false
  | t :: ts => t.binds s || bindsAny s ts

end

mutual

/-- Whether a name is bound somewhere in a statement. -/
def Stmt.binds (s : String) : Stmt → Bool
  | .loop target _ _ _ body otherwise =>
      target.binds s || stmtsBind s body || stmtsBind s otherwise
  | .branch cases otherwise => casesBind s cases || stmtsBind s otherwise
  | .assign target _ => target.binds s
  | .assignBlock target _ body => target.binds s || stmtsBind s body
  | .scope bindings body => (bindings.any fun b => b.1.binds s) || stmtsBind s body
  | .escaping _ body => stmtsBind s body
  | .block _ _ _ body => stmtsBind s body
  | .define _ _ body => stmtsBind s body
  | .call _ _ body => stmtsBind s body
  | .filterBlock _ body => stmtsBind s body
  | _ => false

/-- Whether a name is bound somewhere in statements. -/
def stmtsBind (s : String) : List Stmt → Bool
  | [] => false
  | t :: ts => t.binds s || stmtsBind s ts

/-- Whether a name is bound somewhere in the cases of a branch. -/
def casesBind (s : String) : List (Expr × List Stmt) → Bool
  | [] => false
  | (_, body) :: rest => stmtsBind s body || casesBind s rest

end

/-! ### Blocks -/

mutual

/-- The blocks of a statement. -/
def Stmt.blocks : Stmt → List (String × List Stmt)
  | .loop _ _ _ _ body otherwise => blocksOf body ++ blocksOf otherwise
  | .branch cases otherwise => blocksOfCases cases ++ blocksOf otherwise
  | .assignBlock _ _ body => blocksOf body
  | .scope _ body => blocksOf body
  | .escaping _ body => blocksOf body
  | .block name _ _ body => (name, body) :: blocksOf body
  | .define _ _ body => blocksOf body
  | .call _ _ body => blocksOf body
  | .filterBlock _ body => blocksOf body
  | _ => []

/-- **The blocks of statements**, from the outside in. -/
def blocksOf : List Stmt → List (String × List Stmt)
  | [] => []
  | t :: ts => t.blocks ++ blocksOf ts

/-- The blocks in the cases of a branch. -/
def blocksOfCases : List (Expr × List Stmt) → List (String × List Stmt)
  | [] => []
  | (_, body) :: rest => blocksOf body ++ blocksOfCases rest

end

/-- Blocks have names of their own. -/
def checkBlockNames : List String → List (String × List Stmt) → Except Malformed Unit
  | _, [] => .ok ()
  | seen, (name, _) :: rest =>
      if name ∈ seen then
        malformed ("block " ++ Text.quotedString name ++ " defined twice")
      else checkBlockNames (name :: seen) rest

/-! ### Statements -/

/-- Where a statement stands. -/
structure Position where
  /-- Whether missing filters show only when they are needed. -/
  isLoose : Bool
  /-- Whether it stands outside of loops, macros and blocks. -/
  isTop : Bool
  /-- Whether nothing is printed here, because another template is extended. -/
  isSilent : Bool

/-- Inside a loop or another scope. -/
def Position.inner (p : Position) : Position := ⟨false, false, p.isSilent⟩

/-- Inside a branch. -/
def Position.branch (p : Position) : Position := ⟨true, p.isTop, p.isSilent⟩

/-- Inside a text of its own. -/
def Position.apart : Position := ⟨false, false, false⟩

/-- The parameters of a macro: the text of a `call` comes last or has a standard. -/
def checkParams (params : List Parameter) (body : List Stmt) : Except Malformed Unit := do
  if params.any (fun p => p.1 = "caller" && p.2.isNone) && stmtsMention "caller" body then
    malformed ("When defining macros or call blocks the special \"caller\" argument must be "
      ++ "omitted or be given a default.")
  checkExprs false (params.filterMap Prod.snd)

mutual

/-- Nothing is wrong with a statement. -/
def checkStmt (p : Position) : Stmt → Except Malformed Unit
  | .text _ => .ok ()
  | .print e => if p.isSilent then .ok () else checkExpr p.isLoose e
  | .loop target items test isRecursive body otherwise => do
      checkOption false test
      if target.binds "loop" || stmtsBind "loop" body || stmtsBind "loop" otherwise then
        malformed "Can't assign to special loop variable in for-loop target"
      if !isRecursive then checkExpr p.isLoose items
      checkStmts p.inner body
      checkStmts p.inner otherwise
      if isRecursive then checkExpr p.isLoose items
  | .branch cases otherwise => do
      checkCases p.branch cases
      checkStmts p.branch otherwise
  | .assign _ e => checkExpr p.isLoose e
  | .assignBlock _ filter body => do
      checkStmts Position.apart body
      checkOption false filter
  | .scope bindings body => do
      checkExprs p.isLoose (bindings.map Prod.snd)
      checkStmts p.inner body
  | .escaping e body => do
      checkExpr false e
      checkStmts p.inner body
  | .block .. => .ok ()
  | .extend e =>
      if p.isTop then checkExpr p.isLoose e
      else malformed "cannot use extend from a non top-level scope"
  | .insert e _ => checkExpr p.isLoose e
  | .load e => checkExpr p.isLoose e
  | .define _ params body => do
      checkParams params body
      checkStmts Position.apart body
  | .call params call body => do
      checkParams params body
      checkStmts Position.apart body
      checkExpr p.isLoose call
  | .filterBlock filter body => do
      checkStmts p.inner body
      checkExpr false filter

/-- Nothing is wrong with statements. -/
def checkStmts (p : Position) : List Stmt → Except Malformed Unit
  | [] => .ok ()
  | t :: ts => do
      checkStmt p t
      let isExtended := match t with
        | .extend _ => p.isTop && !p.isLoose
        | _ => false
      checkStmts { p with isSilent := p.isSilent || isExtended } ts

/-- Nothing is wrong with the cases of a branch. -/
def checkCases (p : Position) : List (Expr × List Stmt) → Except Malformed Unit
  | [] => .ok ()
  | (e, body) :: rest => do
      checkExpr true e
      checkStmts p body
      checkCases p rest

end

/-- **The blocks of a template in which nothing is wrong.** -/
def check (stmts : List Stmt) : Except Malformed (List (String × List Stmt)) := do
  let blocks := blocksOf stmts
  checkBlockNames [] blocks
  checkStmts ⟨false, true, false⟩ stmts
  blocks.forM fun b => checkStmts Position.apart b.2
  return blocks

end EntryTemplates.Render
