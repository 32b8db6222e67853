/-
**Tame templates.**

Texts, names and parts of values, tests for equality and for kinds, branches and bindings are tame:
with values that can be written they come to no mishap, and their depth is never more than their
size, so that they need no more than the depth that is granted to a template.  Loops are not tame,
for a value may have no items; neither are arithmetic, order and calls, nor numbers with a point.

Main definitions:

* `EntryTemplates.Render.Expr.IsTame`, `EntryTemplates.Render.Stmt.IsTame` — tame expressions and
  statements.

Main results:

* `EntryTemplates.Render.Expr.IsTame.settles` — **tame expressions settle**;
* `EntryTemplates.Render.Stmt.IsTame.settles`, `EntryTemplates.Render.settles_runBody` — **tame
  statements settle**.
-/

import EntryTemplates.Proofs.Render.TameValues

set_option relaxedAutoImplicit false
set_option autoImplicit false

namespace EntryTemplates.Render

open Eval

/-! ### Tame expressions -/

/-- The tests that have an answer for every value; those for numbers that are odd or even divide, and
those for names of filters and tests take keys only. -/
def tameTests : List String :=
  plainTests.filter fun name => name ∉ ["odd", "even", "filter", "test"]

/-- Expressions that put values together, take parts of them, test their kinds and compare them for
equality. -/
inductive Expr.IsTame : Expr → Prop where
  /-- A number with a point may be too large, and then it has no notation of its own. -/
  | constant {v : Value} (hv : v.IsTame) (hpoint : ∀ x, v ≠ .float x) : IsTame (.constant v)
  | name (s : String) : IsTame (.name s)
  | tuple {items : List Expr} (hitems : ∀ e ∈ items, IsTame e) : IsTame (.tuple items)
  | list {items : List Expr} (hitems : ∀ e ∈ items, IsTame e) : IsTame (.list items)
  | choice {test yes : Expr} {no : Option Expr} (line : Nat) (htest : IsTame test)
      (hyes : IsTame yes) (hno : ∀ e ∈ no, IsTame e) : IsTame (.choice test yes no line)
  | either {a b : Expr} (ha : IsTame a) (hb : IsTame b) : IsTame (.either a b)
  | both {a b : Expr} (ha : IsTame a) (hb : IsTame b) : IsTame (.both a b)
  | negation {a : Expr} (ha : IsTame a) : IsTame (.negation a)
  | compare {a : Expr} {more : List (Comparison × Expr)} (ha : IsTame a)
      (hsigns : ∀ p ∈ more, p.1 = .equal ∨ p.1 = .notEqual) (hmore : ∀ p ∈ more, IsTame p.2) :
      IsTame (.compare a more)
  | concat {items : List Expr} (hitems : ∀ e ∈ items, IsTame e) : IsTame (.concat items)
  | part {a : Expr} (ha : IsTame a) (name : String) : IsTame (.attribute a name)
  /-- The index is no slice, for a slice is not tame. -/
  | item {a index : Expr} (ha : IsTame a) (hindex : IsTame index) : IsTame (.item a index)
  /-- A value with another one that stands for it if it is undefined. -/
  | standard {a b : Expr} (ha : IsTame a) (hb : IsTame b) :
      IsTame (.filter (some a) "default" [b] [] none none)
  | test {a : Expr} {name : String} (hname : name ∈ tameTests) (ha : IsTame a) :
      IsTame (.test a name [] [] none none)

theorem Expr.IsTame.ne_slice {e : Expr} (h : e.IsTame) (x y z : Option Expr) :
    e ≠ .slice x y z := by
  rintro rfl
  cases h

theorem settles_valueOf (scope : Nat) (name : String) :
    (valueOf scope name).Settles Value.IsTame := by
  refine settles_get.bind fun m hm => ?_
  split
  · rename_i v hv
    exact settles_pure (hm.find? hv)
  · split
    · exact settles_pure trivial
    · exact settles_pure ⟨_, rfl⟩

theorem settles_isTrue {v : Value} (h : v.IsTame) :
    (liftM v.isTrue : Eval Bool).Settles fun _ => True :=
  settles_lift (settled_isTrue h)

theorem settles_isIterable {v : Value} (h : v.IsTame) : (isIterable v).Settles fun _ => True := by
  unfold isIterable
  split
  · exact settles_missing h
  all_goals first
    | exact settles_pure trivial
    | skip
  refine (settles_object? _).bind fun found _ => ?_
  split <;> exact settles_pure trivial

theorem settles_isCallable (v : Value) : (isCallable v).Settles fun _ => True := by
  unfold isCallable
  split
  all_goals first
    | exact settles_pure trivial
    | skip
  refine (settles_object? _).bind fun found _ => ?_
  split <;> exact settles_pure trivial

theorem applyTest_plain {name : String} (h : name ∈ plainTests) (v : Value) :
    applyTest name v [] [] = (get : Eval Memory) >>= fun _ => applyPlainTest name v := by
  simp only [plainTests, List.mem_cons, List.not_mem_nil, or_false] at h
  rcases h with rfl | rfl | rfl | rfl | rfl | rfl | rfl | rfl | rfl | rfl | rfl | rfl | rfl | rfl |
    rfl | rfl | rfl | rfl | rfl | rfl | rfl <;> rfl

/-- **A tame test has an answer.** -/
theorem settles_applyTest {name : String} (h : name ∈ tameTests) {v : Value} (hv : v.IsTame) :
    (applyTest name v [] []).Settles fun _ => True := by
  have hplain : (applyPlainTest name v).Settles fun _ => True := by
    unfold applyPlainTest
    split
    -- the tests that are not tame
    · exact absurd h (by decide)
    · exact absurd h (by decide)
    · exact settles_pure trivial
    · exact settles_pure trivial
    · exact absurd h (by decide)
    · exact absurd h (by decide)
    all_goals first
      | exact settles_pure trivial
      | exact (settles_text hv).bind fun _ _ => settles_pure trivial
      | exact settles_isIterable hv
      | exact settles_isCallable v
  rw [applyTest_plain (List.mem_filter.1 h).1]
  exact settles_get.bind fun _ _ => hplain

theorem settles_orStandard {v standard boolean : Value} (hv : v.IsTame) (hstandard : standard.IsTame)
    (hboolean : boolean.IsTame) : (orStandard v standard boolean).Settles Value.IsTame := by
  unfold orStandard
  split
  · exact settles_pure hstandard
  · refine (settles_isTrue hboolean).bind fun _ _ => (settles_isTrue hv).bind fun _ _ =>
      settles_pure ?_
    split
    · exact hstandard
    · exact hv

theorem settles_applyFilter_default (fuel : Nat) {v w : Value} (hv : v.IsTame) (hw : w.IsTame) :
    (applyFilter (fuel + 1) "default" v [w] []).Settles Value.IsTame := by
  have hfilter : applyFilter (fuel + 1) "default" v [w] [] =
    (get : Eval Memory) >>= fun _ => orStandard v w (.bool false) := rfl
  rw [hfilter]
  exact settles_get.bind fun _ _ => settles_orStandard hv hw trivial

theorem evalArgs_plain (fuel scope : Nat) (args : List Expr) :
    evalArgs (fuel + 1) scope args [] none none =
      args.mapM (evalExpr fuel scope) >>= fun args => pure (args, []) := by
  rw [evalArgs]
  simp

/-! ### Sizes -/

theorem size_le_sizeOfAll {e : Expr} {items : List Expr} (h : e ∈ items) :
    e.size ≤ sizeOfAll items := by
  induction items with
  | nil => exact absurd h List.not_mem_nil
  | cons f items ih =>
      rw [sizeOfAll]
      obtain rfl | h := List.mem_cons.1 h
      · exact Nat.le_add_right _ _
      · exact Nat.le_add_left_of_le (ih h)

theorem Expr.size_pos (e : Expr) : 0 < e.size := by
  cases e <;> rw [Expr.size] <;> omega

theorem Stmt.size_pos (s : Stmt) : 0 < s.size := by
  cases s <;> rw [Stmt.size] <;> omega

theorem sizeOfStmts_pos (stmts : List Stmt) : 0 < sizeOfStmts stmts := by
  induction stmts with
  | nil => exact Nat.one_pos
  | cons s stmts ih =>
      rw [sizeOfStmts]
      exact Nat.add_pos_right _ ih

theorem size_lt_sizeOfStmts {s : Stmt} {stmts : List Stmt} (h : s ∈ stmts) :
    s.size < sizeOfStmts stmts := by
  induction stmts with
  | nil => exact absurd h List.not_mem_nil
  | cons t stmts ih =>
      rw [sizeOfStmts]
      obtain rfl | h := List.mem_cons.1 h
      · exact Nat.lt_add_of_pos_right (sizeOfStmts_pos stmts)
      · exact Nat.lt_add_left _ (ih h)

theorem size_le_sizeOfBindings {b : Target × Expr} {bindings : List (Target × Expr)}
    (h : b ∈ bindings) : b.2.size ≤ sizeOfBindings bindings := by
  induction bindings with
  | nil => exact absurd h List.not_mem_nil
  | cons c bindings ih =>
      obtain ⟨t, e⟩ := c
      rw [sizeOfBindings]
      obtain rfl | h := List.mem_cons.1 h
      · exact Nat.le_add_right _ _
      · exact Nat.le_add_left_of_le (ih h)

theorem exists_fuel {size fuel : Nat} (hpos : 0 < size) (h : size ≤ fuel) :
    ∃ k, fuel = k + 1 :=
  ⟨fuel - 1, by omega⟩

/-! ### Expressions settle -/

/-- An expression settles within a depth of its size. -/
def Expr.Settles (e : Expr) : Prop :=
  ∀ fuel scope, e.size ≤ fuel → (evalExpr fuel scope e).Settles Value.IsTame

theorem settles_mapM {items : List Expr} (h : ∀ e ∈ items, e.Settles) {fuel : Nat}
    (hfuel : sizeOfAll items ≤ fuel) (scope : Nat) :
    (items.mapM (evalExpr fuel scope)).Settles fun vs => ∀ v ∈ vs, v.IsTame :=
  Settles.mapM fun e he => h e he fuel scope (Nat.le_trans (size_le_sizeOfAll he) hfuel)

theorem settles_evalCompare {more : List (Comparison × Expr)}
    (hsigns : ∀ p ∈ more, p.1 = .equal ∨ p.1 = .notEqual) (hmore : ∀ p ∈ more, p.2.Settles)
    {fuel : Nat} (hfuel : sizeOfOperands more ≤ fuel) (scope : Nat) {v : Value} (hv : v.IsTame) :
    (evalCompare fuel scope v more).Settles Value.IsTame := by
  induction more generalizing fuel v with
  | nil =>
      obtain ⟨k, rfl⟩ := exists_fuel Nat.one_pos hfuel
      rw [evalCompare]
      exact settles_pure trivial
  | cons p more ih =>
      obtain ⟨sign, e⟩ := p
      obtain ⟨hsign, hsigns⟩ := List.forall_mem_cons.1 hsigns
      obtain ⟨he, hmore⟩ := List.forall_mem_cons.1 hmore
      rw [sizeOfOperands] at hfuel
      obtain ⟨k, rfl⟩ := exists_fuel (by omega) hfuel
      have hk : e.size ≤ k := by omega
      rw [evalCompare]
      refine (he k scope hk).bind fun w hw => settles_get.bind fun m _ => ?_
      refine (settles_lift (settled_compare _ hsign hv hw)).bind fun b _ => ?_
      exact (ih hsigns hmore (by omega) hw).ite (settles_pure trivial)

theorem settles_evalFilter_default {e : Expr} (he : e.Settles) {fuel : Nat}
    (hfuel : 2 + e.size ≤ fuel) (scope : Nat) {v : Value} (hv : v.IsTame) :
    (evalFilter fuel scope v "default" [e] [] none none).Settles Value.IsTame := by
  obtain ⟨k, rfl⟩ : ∃ k, fuel = k + 2 := ⟨fuel - 2, by omega⟩
  rw [evalFilter, evalArgs_plain, List.mapM_cons, List.mapM_nil]
  simp only [bind_assoc, pure_bind]
  refine (he k scope (by omega)).bind fun w hw => ?_
  rw [if_pos (by decide)]
  exact settles_applyFilter_default _ hv hw

/-- An expression settles if its first step leads to what settles. -/
theorem Expr.settles_of_step {e : Expr} (h : ∀ fuel scope, e.size ≤ fuel + 1 →
    (evalExpr (fuel + 1) scope e).Settles Value.IsTame) : e.Settles := by
  intro fuel scope hfuel
  obtain ⟨k, rfl⟩ := exists_fuel e.size_pos hfuel
  exact h k scope hfuel

theorem settles_choice {test yes : Expr} {no : Option Expr} (line : Nat) (htest : test.Settles)
    (hyes : yes.Settles) (hno : ∀ e ∈ no, e.Settles) : (Expr.choice test yes no line).Settles := by
  refine Expr.settles_of_step fun fuel scope hfuel => ?_
  rw [Expr.size] at hfuel
  have htrue := hyes fuel scope (by omega)
  cases no with
  | none =>
      rw [evalExpr]
      exact (htest fuel scope (by omega)).bind fun v hv => (settles_isTrue hv).bind fun _ _ =>
        htrue.ite (settles_pure ⟨_, rfl⟩)
  | some e =>
      rw [sizeOfOption] at hfuel
      rw [evalExpr]
      exact (htest fuel scope (by omega)).bind fun v hv => (settles_isTrue hv).bind fun _ _ =>
        htrue.ite (hno e rfl fuel scope (by omega))

theorem settles_test {a : Expr} {name : String} (hname : name ∈ tameTests) (ha : a.Settles) :
    (Expr.test a name [] [] none none).Settles := by
  intro fuel scope hfuel
  simp only [Expr.size, sizeOfOption, sizeOfAll, sizeOfNamed] at hfuel
  obtain ⟨k, rfl⟩ : ∃ k, fuel = k + 2 := ⟨fuel - 2, by omega⟩
  have htest : testNames.contains name = true :=
    List.contains_iff_mem.2 (List.mem_append_left _
      (List.mem_append_left _ (List.mem_filter.1 hname).1))
  rw [evalExpr]
  refine (ha (k + 1) scope (by omega)).bind fun v hv => ?_
  rw [evalArgs_plain, List.mapM_nil]
  simp only [pure_bind]
  rw [if_pos htest]
  exact (settles_applyTest hname hv).bind fun _ _ => settles_pure trivial

/-- **Tame expressions settle.** -/
theorem Expr.IsTame.settles {e : Expr} (h : e.IsTame) : e.Settles := by
  -- Each step of depth is paid for by what the expression adds to the sizes of its parts.
  induction h with
  | constant hv _ =>
      refine settles_of_step fun fuel scope hfuel => ?_
      rw [evalExpr]
      exact settles_pure hv
  | name s =>
      refine settles_of_step fun fuel scope hfuel => ?_
      rw [evalExpr]
      exact settles_valueOf scope s
  | tuple _ ih =>
      refine settles_of_step fun fuel scope hfuel => ?_
      rw [Expr.size] at hfuel
      rw [evalExpr]
      exact (settles_mapM ih (by omega) scope).bind fun _ hvs => settles_pure (areTame_iff.2 hvs)
  | list _ ih =>
      refine settles_of_step fun fuel scope hfuel => ?_
      rw [Expr.size] at hfuel
      rw [evalExpr]
      exact (settles_mapM ih (by omega) scope).bind fun _ hvs => settles_pure (areTame_iff.2 hvs)
  | choice line _ _ _ ihtest ihyes ihno => exact settles_choice line ihtest ihyes ihno
  | either _ _ iha ihb =>
      refine settles_of_step fun fuel scope hfuel => ?_
      rw [Expr.size] at hfuel
      rw [evalExpr]
      exact (iha fuel scope (by omega)).bind fun v hv => (settles_isTrue hv).bind fun _ _ =>
        (settles_pure hv).ite (ihb fuel scope (by omega))
  | both _ _ iha ihb =>
      refine settles_of_step fun fuel scope hfuel => ?_
      rw [Expr.size] at hfuel
      rw [evalExpr]
      exact (iha fuel scope (by omega)).bind fun v hv => (settles_isTrue hv).bind fun _ _ =>
        (ihb fuel scope (by omega)).ite (settles_pure hv)
  | negation _ iha =>
      refine settles_of_step fun fuel scope hfuel => ?_
      rw [Expr.size] at hfuel
      rw [evalExpr]
      exact (iha fuel scope (by omega)).bind fun v hv => (settles_isTrue hv).bind fun _ _ =>
        settles_pure trivial
  | compare _ hsigns _ iha ihmore =>
      refine settles_of_step fun fuel scope hfuel => ?_
      rw [Expr.size] at hfuel
      rw [evalExpr]
      exact (iha fuel scope (by omega)).bind fun v hv =>
        settles_evalCompare hsigns ihmore (by omega) scope hv
  | concat _ ih =>
      refine settles_of_step fun fuel scope hfuel => ?_
      rw [Expr.size] at hfuel
      rw [evalExpr]
      exact (settles_mapM ih (by omega) scope).bind fun _ hvs => settles_joined hvs trivial
  | part _ name iha =>
      refine settles_of_step fun fuel scope hfuel => ?_
      rw [Expr.size] at hfuel
      rw [evalExpr]
      exact (iha fuel scope (by omega)).bind fun v hv => settles_member hv name
  | item _ hindex iha ihindex =>
      refine settles_of_step fun fuel scope hfuel => ?_
      rw [Expr.size] at hfuel
      rw [evalExpr]
      · exact (iha fuel scope (by omega)).bind fun v hv =>
          (ihindex fuel scope (by omega)).bind fun index hindex => settles_item hv hindex
      · exact hindex.ne_slice
  | standard _ _ iha ihb =>
      refine settles_of_step fun fuel scope hfuel => ?_
      simp only [Expr.size, sizeOfOption, sizeOfAll, sizeOfNamed] at hfuel
      rw [evalExpr]
      exact (iha fuel scope (by omega)).bind fun v hv =>
        settles_evalFilter_default ihb (by omega) scope hv
  | test hname _ iha => exact settles_test hname iha

/-! ### Tame statements -/

/-- Statements that print tame expressions, branch by them and bind names to them. -/
inductive Stmt.IsTame : Stmt → Prop where
  | text (s : String) : IsTame (.text s)
  | print {e : Expr} (he : e.IsTame) : IsTame (.print e)
  | branch {cases : List (Expr × List Stmt)} {otherwise : List Stmt}
      (htests : ∀ c ∈ cases, c.1.IsTame) (hbodies : ∀ c ∈ cases, ∀ s ∈ c.2, IsTame s)
      (hotherwise : ∀ s ∈ otherwise, IsTame s) : IsTame (.branch cases otherwise)
  | assign (name : String) {e : Expr} (he : e.IsTame) : IsTame (.assign (.name name) e)
  | assignBlock (name : String) {body : List Stmt} (hbody : ∀ s ∈ body, IsTame s) :
      IsTame (.assignBlock (.name name) none body)
  | scope {bindings : List (Target × Expr)} {body : List Stmt}
      (hnames : ∀ b ∈ bindings, ∃ name, b.1 = .name name) (hvalues : ∀ b ∈ bindings, b.2.IsTame)
      (hbody : ∀ s ∈ body, IsTame s) : IsTame (.scope bindings body)
  | escaping {e : Expr} {body : List Stmt} (he : e.IsTame) (hbody : ∀ s ∈ body, IsTame s) :
      IsTame (.escaping e body)
  /-- A macro is made here, and not called. -/
  | define (name : String) {params : List Parameter} {body : List Stmt}
      (hnames : (params.map Prod.fst).Nodup) (hstandards : ∀ p ∈ params, ∀ e ∈ p.2, e.IsTame)
      (hbody : ∀ s ∈ body, IsTame s) : IsTame (.define name params body)

/-- A statement settles within a depth of its size. -/
def Stmt.Settles (s : Stmt) : Prop :=
  ∀ fuel scope, s.size ≤ fuel → (runStmt fuel scope s).Settles fun _ => True

theorem settles_bindTarget_name (scope : Nat) (name : String) {v : Value} (hv : v.IsTame) :
    (bindTarget scope (.name name) v).Settles fun _ => True := by
  rw [bindTarget]
  exact settles_bind_name scope name hv

/-- Statements settle one after another. -/
theorem settles_runBody_of {stmts : List Stmt} (h : ∀ s ∈ stmts, s.Settles) {fuel : Nat}
    (hfuel : sizeOfStmts stmts ≤ fuel) (scope : Nat) :
    (runBody fuel scope stmts).Settles fun _ => True := by
  obtain ⟨k, rfl⟩ := exists_fuel (sizeOfStmts_pos stmts) hfuel
  rw [runBody]
  refine (Settles.mapM fun s hs => h s hs k scope ?_).bind fun _ _ => settles_pure trivial
  have hsize := size_lt_sizeOfStmts hs
  omega

theorem settles_runCases {cases : List (Expr × List Stmt)} {otherwise : List Stmt}
    (htests : ∀ c ∈ cases, c.1.IsTame) (hbodies : ∀ c ∈ cases, ∀ s ∈ c.2, s.Settles)
    (hotherwise : ∀ s ∈ otherwise, s.Settles) {fuel : Nat}
    (hfuel : sizeOfCases cases + sizeOfStmts otherwise ≤ fuel) (scope : Nat) :
    (runCases fuel scope cases otherwise).Settles fun _ => True := by
  induction cases generalizing fuel with
  | nil =>
      rw [sizeOfCases] at hfuel
      obtain ⟨k, rfl⟩ := exists_fuel (by omega) hfuel
      rw [runCases]
      exact settles_runBody_of hotherwise (by omega) scope
  | cons c cases ih =>
      obtain ⟨e, body⟩ := c
      obtain ⟨htest, htests⟩ := List.forall_mem_cons.1 htests
      obtain ⟨hbody, hbodies⟩ := List.forall_mem_cons.1 hbodies
      rw [sizeOfCases] at hfuel
      obtain ⟨k, rfl⟩ := exists_fuel (by omega) hfuel
      have hsize : e.size ≤ k := by omega
      have hk : sizeOfStmts body ≤ k := by omega
      rw [runCases]
      exact (htest.settles k scope hsize).bind fun v hv => (settles_isTrue hv).bind fun _ _ =>
        (settles_runBody_of hbody hk scope).ite (ih htests hbodies (by omega))

/-- A statement settles if its first step leads to what settles. -/
theorem Stmt.settles_of_step {s : Stmt} (h : ∀ fuel scope, s.size ≤ fuel + 1 →
    (runStmt (fuel + 1) scope s).Settles fun _ => True) : s.Settles := by
  intro fuel scope hfuel
  obtain ⟨k, rfl⟩ := exists_fuel s.size_pos hfuel
  exact h k scope hfuel

theorem settles_assign (name : String) {e : Expr} (he : e.IsTame) :
    (Stmt.assign (.name name) e).Settles := by
  refine Stmt.settles_of_step fun fuel scope hfuel => ?_
  rw [Stmt.size] at hfuel
  have hcheck : (checkTarget scope (.name name)).Settles fun _ => True := by
    rw [checkTarget]
    exact settles_pure trivial
  rw [runStmt]
  exact hcheck.bind fun _ _ => (he.settles fuel scope (by omega)).bind fun v hv =>
    (settles_bindTarget_name scope name hv).bind fun _ _ => settles_pure trivial

theorem settles_assignBlock (name : String) {body : List Stmt} (hbody : ∀ s ∈ body, s.Settles) :
    (Stmt.assignBlock (.name name) none body).Settles := by
  refine Stmt.settles_of_step fun fuel scope hfuel => ?_
  rw [Stmt.size] at hfuel
  have hbind {v : Value} (hv : v.IsTame) : Eval.Settles (fun _ => True) (do
      bindTarget scope (.name name) v
      return "") :=
    (settles_bindTarget_name scope name hv).bind fun _ _ => settles_pure trivial
  rw [runStmt]
  refine (settles_openScope scope).bind fun inner _ =>
    (settles_runBody_of hbody (by omega) inner).bind fun s _ => (settles_made s).bind fun v hv =>
    (settles_pure hv).bind fun v hv => settles_get.bind fun m _ => ?_
  exact ((settles_text hv).bind fun s _ => (settles_made s).bind fun w hw => hbind hw).ite
    ((settles_pure hv).bind fun w hw => hbind hw)

theorem settles_scope {bindings : List (Target × Expr)} {body : List Stmt}
    (hnames : ∀ b ∈ bindings, ∃ name, b.1 = .name name) (hvalues : ∀ b ∈ bindings, b.2.IsTame)
    (hbody : ∀ s ∈ body, s.Settles) : (Stmt.scope bindings body).Settles := by
  refine Stmt.settles_of_step fun fuel scope hfuel => ?_
  rw [Stmt.size] at hfuel
  -- the values are found before the scope is opened
  have hmapM : (bindings.mapM fun b => evalExpr fuel scope b.2).Settles
      fun vs => ∀ v ∈ vs, v.IsTame := by
    refine Settles.mapM fun b hb => (hvalues b hb).settles fuel scope ?_
    have hsize := size_le_sizeOfBindings hb
    omega
  rw [runStmt]
  refine hmapM.bind fun values hvalues => (settles_openScope scope).bind fun inner _ =>
    Settles.bind (P := fun _ => True) ?_ fun _ _ => settles_runBody_of hbody (by omega) inner
  refine Settles.forIn (fun p hp _ => ?_) _
  obtain ⟨hbinding, hvalue⟩ := List.of_mem_zip hp
  obtain ⟨name, hname⟩ := hnames p.1 hbinding
  simp only [hname]
  exact (settles_bindTarget_name inner name (hvalues p.2 hvalue)).bind fun _ _ =>
    settles_pure trivial

theorem settles_escaping {e : Expr} {body : List Stmt} (he : e.IsTame)
    (hbody : ∀ s ∈ body, s.Settles) : (Stmt.escaping e body).Settles := by
  refine Stmt.settles_of_step fun fuel scope hfuel => ?_
  rw [Stmt.size] at hfuel
  rw [runStmt]
  exact (settles_openScope scope).bind fun inner _ => settles_get.bind fun m _ =>
    (he.settles fuel inner (by omega)).bind fun v hv => (settles_isTrue hv).bind fun escapes _ =>
    (settles_modify_escapes escapes).bind fun _ _ =>
    (settles_runBody_of hbody (by omega) inner).bind fun s _ =>
    (settles_modify_escapes _).bind fun _ _ => settles_pure trivial

theorem settles_define (name : String) (params : List Parameter) (body : List Stmt) :
    (Stmt.define name params body).Settles := by
  refine Stmt.settles_of_step fun fuel scope _ => ?_
  have hcallable (f : Macro) : (Object.procedure f).IsTame := trivial
  rw [runStmt]
  exact (settles_create (hcallable _)).bind fun v hv =>
    (settles_bind_name scope name hv).bind fun _ _ => settles_pure trivial

/-- **Tame statements settle.** -/
theorem Stmt.IsTame.settles {s : Stmt} (h : s.IsTame) : s.Settles := by
  induction h with
  | text s =>
      refine settles_of_step fun fuel scope _ => ?_
      rw [runStmt]
      exact settles_pure trivial
  | print he =>
      refine settles_of_step fun fuel scope hfuel => ?_
      rw [Stmt.size] at hfuel
      rw [runStmt]
      exact (he.settles fuel scope (by omega)).bind fun v hv => settles_printed hv
  | branch htests _ _ ihbodies ihotherwise =>
      refine settles_of_step fun fuel scope hfuel => ?_
      rw [Stmt.size] at hfuel
      rw [runStmt]
      exact settles_runCases htests ihbodies ihotherwise (by omega) scope
  | assign name he => exact settles_assign name he
  | assignBlock name _ ih => exact settles_assignBlock name ih
  | scope hnames hvalues _ ih => exact settles_scope hnames hvalues ih
  | escaping he _ ih => exact settles_escaping he ih
  | @define name params body => exact settles_define name params body

end EntryTemplates.Render
