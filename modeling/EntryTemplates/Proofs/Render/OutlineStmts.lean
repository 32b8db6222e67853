/-
**The syntax of an outline.**

A tag that prints a name is read through all the levels of expressions, none of which finds an
operator before the end of the tag.  So an outline is read as texts and printed names, with which
nothing is wrong.

Main definitions:

* `EntryTemplates.Render.Outline.stmts` — the statements that an outline is read as;
* `EntryTemplates.Render.ReadAs` — tokens that are read as statements;
* `EntryTemplates.Render.ArePlain` — statements that are texts and printed names.

Main results:

* `EntryTemplates.Render.parseTuple_printed` — a printed name is read as such;
* `EntryTemplates.Render.parse_source` — **the syntax of an outline**;
* `EntryTemplates.Render.ArePlain.check_eq` — nothing is wrong with texts and printed names.
-/

import EntryTemplates.Proofs.Render.OutlineTokens

set_option relaxedAutoImplicit false
set_option autoImplicit false

namespace EntryTemplates.Render

open Parse

/-! ### Reading a name -/

theorem Parse.bind_of_ok {α β : Type} {x : Parse α} {f : α → Parse β} {r r' : Reader} {a : α}
    (h : x r = .ok (a, r')) : (x >>= f) r = f a r' := by
  change (x r >>= fun p => f p.1 p.2) = f a r'
  rw [h]
  rfl

section EndOfTag

variable {r : Reader} (h : r.now.token = .variableEnd)

include h

theorem peek_of_end : peek r = .ok (.variableEnd, r) := by
  change Except.ok (r.now.token, r) = _
  rw [h]

theorem atName_of_end (s : String) : atName s r = .ok (false, r) := by
  rw [atName, bind_of_ok (peek_of_end h)]
  rfl

theorem atSymbol_of_end (s : String) : atSymbol s r = .ok (false, r) := by
  rw [atSymbol, bind_of_ok (peek_of_end h)]
  rfl

theorem acceptName_of_end (s : String) : acceptName s r = .ok (false, r) := by
  rw [acceptName, bind_of_ok (atName_of_end h s)]
  rfl

theorem acceptSymbol_of_end (s : String) : acceptSymbol s r = .ok (false, r) := by
  rw [acceptSymbol, bind_of_ok (atSymbol_of_end h s)]
  rfl

theorem followedBy_of_end (s t : String) : followedBy s t r = .ok (false, r) := by
  rw [followedBy, bind_of_ok (atName_of_end h s)]
  rfl

/-! No level of expressions goes on at the end of a tag. -/

variable (fuel : Nat) (e : Expr)

theorem parsePostfix_of_end : parsePostfix (fuel + 1) e r = .ok (e, r) := by
  rw [parsePostfix, bind_of_ok (acceptSymbol_of_end h _), if_neg (by decide),
    bind_of_ok (acceptSymbol_of_end h _), if_neg (by decide), bind_of_ok (atSymbol_of_end h _)]
  rfl

theorem parseFilters_of_end : parseFilters (fuel + 1) e r = .ok (e, r) := by
  rw [parseFilters, bind_of_ok (atSymbol_of_end h _), if_neg (by decide),
    bind_of_ok (acceptName_of_end h _), if_neg (by decide), bind_of_ok (atSymbol_of_end h _)]
  rfl

theorem parseOperations_of_end (l : Level) : parseOperations (fuel + 1) l e r = .ok (e, r) := by
  rw [parseOperations, bind_of_ok (peek_of_end h)]
  rfl

theorem parseConcat_of_end : parseConcat (fuel + 1) r = .ok ([], r) := by
  rw [parseConcat, bind_of_ok (acceptSymbol_of_end h _)]
  rfl

theorem parseComparisons_of_end : parseComparisons (fuel + 1) r = .ok ([], r) := by
  have hnone : comparison? .variableEnd = none := rfl
  simp only [parseComparisons]
  rw [bind_of_ok (peek_of_end h), hnone]
  simp only
  rw [bind_of_ok (acceptName_of_end h _), if_neg (by decide), bind_of_ok (followedBy_of_end h _ _)]
  rfl

theorem parseAnds_of_end : parseAnds (fuel + 1) e r = .ok (e, r) := by
  rw [parseAnds, bind_of_ok (acceptName_of_end h _)]
  rfl

theorem parseOrs_of_end : parseOrs (fuel + 1) e r = .ok (e, r) := by
  rw [parseOrs, bind_of_ok (acceptName_of_end h _)]
  rfl

theorem parseChoices_of_end (line : Nat) : parseChoices (fuel + 1) line e r = .ok (e, r) := by
  rw [parseChoices, bind_of_ok (acceptName_of_end h _)]
  rfl

end EndOfTag

/-- The next token is a name, and the end of the tag comes behind it. -/
structure AtPrinted (name : String) (r r' : Reader) : Prop where
  now : r.now.token = .name name
  skip : skip r = .ok ((), r')
  behind : r'.now.token = .variableEnd

section Printed

variable {name : String} {r r' : Reader} (h : AtPrinted name r r') (hname : IsFreeName name)

include h

theorem AtPrinted.peek : Parse.peek r = .ok (.name name, r) := by
  change Except.ok (r.now.token, r) = _
  rw [h.now]

theorem AtPrinted.acceptSymbol (s : String) : Parse.acceptSymbol s r = .ok (false, r) := by
  have hat : atSymbol s r = .ok (false, r) := by
    rw [atSymbol, bind_of_ok h.peek]
    rfl
  rw [Parse.acceptSymbol, bind_of_ok hat]
  rfl

include hname

theorem AtPrinted.not_negated : acceptName "not" r = .ok (false, r) := by
  have hne : name ≠ "not" := by
    rintro rfl
    exact hname.noWord (by decide)
  have hat : atName "not" r = .ok (false, r) := by
    rw [atName, bind_of_ok h.peek]
    change Except.ok (decide (name = "not"), r) = _
    rw [decide_eq_false hne]
  rw [acceptName, bind_of_ok hat]
  rfl

theorem parsePrimary_printed (fuel : Nat) : parsePrimary (fuel + 1) r = .ok (.name name, r') := by
  have hconstant : constant? name = none := by
    have hword := hname.noWord
    simp only [List.mem_cons, List.not_mem_nil, or_false, not_or] at hword
    simp [constant?, hword]
  rw [parsePrimary, bind_of_ok h.peek]
  simp only
  rw [bind_of_ok h.skip, hconstant]
  rfl

theorem parseSigned_printed (fuel : Nat) : parseSigned (fuel + 2) r = .ok (.name name, r') := by
  rw [parseSigned, bind_of_ok (h.acceptSymbol _), if_neg (by decide), bind_of_ok (h.acceptSymbol _),
    if_neg (by decide), parsePrimary_printed h hname]

theorem parseUnary_printed (fuel : Nat) : parseUnary (fuel + 3) true r = .ok (.name name, r') := by
  rw [parseUnary, bind_of_ok (parseSigned_printed h hname fuel),
    bind_of_ok (parsePostfix_of_end h.behind _ _)]
  exact parseFilters_of_end h.behind _ _

omit hname in
/-- A level ends where its first operand does. -/
theorem parseLevel_printed {l : Level} {fuel : Nat}
    (hoperand : parseOperand (fuel + 1) l r = .ok (.name name, r')) :
    parseLevel (fuel + 2) l r = .ok (.name name, r') := by
  rw [parseLevel, bind_of_ok hoperand, parseOperations_of_end h.behind]

/-- **A printed name is read as such** through all the levels of expressions. -/
theorem parseTuple_printed (fuel : Nat) :
    parseTuple (fuel + 15) true false none r = .ok (.name name, r') := by
  -- from the inside out: each level reads the one below it and finds nothing to go on with
  have hpower : parseLevel (fuel + 5) .power r = .ok (.name name, r') :=
    parseLevel_printed h (parseUnary_printed h hname fuel)
  have hproduct : parseLevel (fuel + 7) .product r = .ok (.name name, r') :=
    parseLevel_printed h hpower
  have hsum : parseLevel (fuel + 9) .sum r = .ok (.name name, r') := by
    refine parseLevel_printed h ?_
    simp only [parseOperand]
    rw [bind_of_ok hproduct, bind_of_ok (parseConcat_of_end h.behind _)]
    rfl
  have hnot : parseNot (fuel + 10) r = .ok (.name name, r') := by
    rw [parseNot, bind_of_ok (h.not_negated hname), if_neg (by decide), bind_of_ok hsum,
      bind_of_ok (parseComparisons_of_end h.behind _)]
    rfl
  have hand : parseAnd (fuel + 11) r = .ok (.name name, r') := by
    rw [parseAnd, bind_of_ok hnot, parseAnds_of_end h.behind]
  have hor : parseOr (fuel + 12) r = .ok (.name name, r') := by
    rw [parseOr, bind_of_ok hand, parseOrs_of_end h.behind]
  have hexpr : parseExpr (fuel + 13) r = .ok (.name name, r') := by
    have hline : Parse.line r = .ok (r.now.line, r) := rfl
    rw [parseExpr, bind_of_ok hline, bind_of_ok hor, parseChoices_of_end h.behind]
  have hitems : parseTupleItems (fuel + 14) true none true r = .ok (([.name name], false), r') := by
    rw [parseTupleItems]
    simp only [Bool.not_true, Bool.false_eq_true, if_false, if_true]
    rw [bind_of_ok h.peek]
    simp only [endsTuple, Token.isVariableEnd, Token.isBlockEnd, Token.isSymbol, Option.any_none,
      Bool.or_false, Bool.false_eq_true, if_false]
    rw [bind_of_ok hexpr, bind_of_ok (atSymbol_of_end h.behind _)]
    rfl
  rw [parseTuple, bind_of_ok hitems]
  rfl

end Printed

/-! ### Reading an outline -/

/-- The tokens still ahead, which no failure follows. -/
def Ahead (ts : List Token) (r : Reader) : Prop :=
  r.failure = none ∧ r.now.token = ts.headD .stop ∧ r.rest.map (·.token) = ts.tail

theorem Ahead.skip {t : Token} {ts : List Token} {r : Reader} (h : Ahead (t :: ts) r) :
    ∃ r', Parse.skip r = .ok ((), r') ∧ Ahead ts r' := by
  obtain ⟨now, rest, failure, tags, ends⟩ := r
  obtain ⟨hfailure, -, hrest⟩ := h
  simp only [List.tail_cons] at hfailure hrest
  subst hfailure hrest
  cases rest with
  | nil => exact ⟨_, rfl, rfl, rfl, rfl⟩
  | cons u rest => exact ⟨_, rfl, rfl, rfl, rfl⟩

/-- The statement of text: none if there is no text. -/
def textStmts (lineBreak s : List Char) : List Stmt :=
  if s = [] then [] else [.text (String.ofList (setBreaks lineBreak s))]

/-- The statements that an outline is read as. -/
def Outline.stmts (lineBreak : List Char) : Outline → List Stmt
  | .text s => textStmts lineBreak s
  | .gap s name rest =>
      textStmts lineBreak s ++ .print (.name name) :: rest.stmts lineBreak

/-- With `n` statements at most, and enough fuel for the last of them, tokens are read as
statements. -/
def ReadAs (n : Nat) (ts : List Token) (stmts : List Stmt) : Prop :=
  ∀ (r : Reader) (fuel : Nat), Ahead ts r →
    ∃ r', parseBody (fuel + 15 + n) none r = .ok (stmts, r')

theorem Ahead.peek {t : Token} {ts : List Token} {r : Reader} (h : Ahead (t :: ts) r) :
    Parse.peek r = .ok (t, r) := by
  change Except.ok (r.now.token, r) = _
  rw [h.2.1]
  rfl

theorem readAs_nil : ReadAs 1 [] [] := by
  intro r fuel h
  have hpeek : Parse.peek r = .ok (.stop, r) := by
    change Except.ok (r.now.token, r) = _
    rw [h.2.1]
    rfl
  refine ⟨r, ?_⟩
  rw [parseBody, bind_of_ok hpeek]
  rfl

theorem ReadAs.text {n : Nat} {ts : List Token} {stmts : List Stmt} (h : ReadAs n ts stmts)
    (s : String) : ReadAs (n + 1) (.data s :: ts) (.text s :: stmts) := by
  intro r fuel hr
  obtain ⟨r₁, hskip, hr₁⟩ := hr.skip
  obtain ⟨r', hbody⟩ := h r₁ fuel hr₁
  refine ⟨r', ?_⟩
  rw [← Nat.add_assoc, parseBody, bind_of_ok hr.peek]
  simp only
  rw [bind_of_ok hskip, bind_of_ok hbody]
  rfl

theorem ReadAs.printed {n : Nat} {ts : List Token} {stmts : List Stmt} (h : ReadAs n ts stmts)
    {name : String} (hname : IsFreeName name) :
    ReadAs (n + 1) (.variableStart :: .name name :: .variableEnd :: ts)
      (.print (.name name) :: stmts) := by
  intro r fuel hr
  obtain ⟨r₁, hskip₁, hr₁⟩ := hr.skip
  obtain ⟨r₂, hskip₂, hr₂⟩ := hr₁.skip
  obtain ⟨r₃, hskip₃, hr₃⟩ := hr₂.skip
  obtain ⟨r', hbody⟩ := h r₃ fuel hr₃
  have hprinted : AtPrinted name r₁ r₂ := ⟨hr₁.2.1, hskip₂, hr₂.2.1⟩
  have htuple : parseTuple (fuel + 15 + n) true false none r₁ = .ok (.name name, r₂) := by
    rw [Nat.add_right_comm]
    exact parseTuple_printed hprinted hname _
  have hexpect : expect Token.variableEnd.description Token.isVariableEnd r₂ = .ok ((), r₃) := by
    rw [expect, bind_of_ok hr₂.peek]
    exact hskip₃
  refine ⟨r', ?_⟩
  rw [← Nat.add_assoc, parseBody, bind_of_ok hr.peek]
  simp only
  rw [bind_of_ok hskip₁, bind_of_ok htuple, bind_of_ok hexpect, bind_of_ok hbody]
  rfl

/-- Text before what is read. -/
theorem ReadAs.textTokens {n : Nat} {ts : List Token} {stmts : List Stmt} (h : ReadAs n ts stmts)
    (lineBreak s : List Char) :
    ReadAs (n + 1) (textTokens lineBreak s ++ ts) (textStmts lineBreak s ++ stmts) := by
  by_cases hs : s = []
  · -- No statement is read, so one unit of fuel is left over.
    rw [Render.textTokens, textStmts, if_pos hs, if_pos hs]
    intro r fuel hr
    obtain ⟨r', hbody⟩ := h r (fuel + 1) hr
    rw [Nat.add_assoc fuel, Nat.add_comm 1 15, ← Nat.add_assoc, Nat.add_assoc, Nat.add_comm 1 n]
      at hbody
    exact ⟨r', hbody⟩
  · rw [Render.textTokens, textStmts, if_neg hs, if_neg hs]
    exact h.text _

/-- **An outline is read as its statements.** -/
theorem readAs_tokens {o : Outline} (ho : o.IsPlain) (lineBreak : List Char) :
    ReadAs (2 * o.names.length + 2) (o.tokens lineBreak) (o.stmts lineBreak) := by
  induction o with
  | text s =>
      have htext := readAs_nil.textTokens lineBreak s
      rwa [List.append_nil, List.append_nil] at htext
  | gap s name rest ih =>
      obtain ⟨-, -, hname, hrest⟩ := ho
      have hgap := ((ih hrest).printed hname).textTokens lineBreak s
      rw [Outline.tokens, List.append_assoc]
      exact hgap

theorem length_names_le (o : Outline) (lineBreak : List Char) :
    o.names.length ≤ (o.tokens lineBreak).length := by
  induction o with
  | text s => simp [Outline.names]
  | gap s name rest ih =>
      simp only [Outline.names, Outline.tokens, List.length_append, List.length_cons,
        List.length_nil]
      omega

/-- **The syntax of an outline.** -/
theorem parse_source {o : Outline} (ho : o.IsPlain) (lineBreak : List Char) :
    parse (tokensOf lineBreak (Text.unifyBreaks o.source)) = .ok (o.stmts lineBreak) := by
  obtain ⟨located, hlocated, htokens⟩ := tokensOf_source ho lineBreak
  have hstart : ∃ r, Reader.start ⟨located, none⟩ = .ok r ∧ Ahead (o.tokens lineBreak) r := by
    rw [← hlocated]
    cases located with
    | nil => exact ⟨_, rfl, rfl, rfl, rfl⟩
    | cons t located => exact ⟨_, rfl, rfl, rfl, rfl⟩
  obtain ⟨r, hreader, hr⟩ := hstart
  have hlength : o.names.length ≤ located.length := by
    have htokens := length_names_le o lineBreak
    rwa [← hlocated, List.length_map] at htokens
  obtain ⟨fuel, hfuel⟩ := Nat.exists_eq_add_of_le
    (show 15 + (2 * o.names.length + 2) ≤ 40 * (located.length + 10) by omega)
  obtain ⟨r', hbody⟩ := readAs_tokens ho lineBreak r fuel hr
  rw [htokens, parse, hreader]
  have hrun : (parseBody (40 * (located.length + 10)) none).run r =
      .ok (o.stmts lineBreak, r') := by
    rw [hfuel, Nat.add_comm, ← Nat.add_assoc]
    exact hbody
  change ((parseBody (40 * (located.length + 10)) none).run r >>= fun p => pure p.1) = _
  rw [hrun]
  rfl

/-! ### Checking an outline -/

/-- Statements that are texts and printed names. -/
inductive ArePlain : List Stmt → Prop where
  | nil : ArePlain []
  | text (s : String) {stmts : List Stmt} (h : ArePlain stmts) : ArePlain (.text s :: stmts)
  | printed (name : String) {stmts : List Stmt} (h : ArePlain stmts) :
      ArePlain (.print (.name name) :: stmts)

theorem arePlain_textStmts {stmts : List Stmt} (h : ArePlain stmts) (lineBreak s : List Char) :
    ArePlain (textStmts lineBreak s ++ stmts) := by
  rw [textStmts]
  split
  · exact h
  · exact h.text _

theorem arePlain_stmts (o : Outline) (lineBreak : List Char) : ArePlain (o.stmts lineBreak) := by
  induction o with
  | text s =>
      have htext := arePlain_textStmts .nil lineBreak s
      rwa [List.append_nil] at htext
  | gap s name rest ih => exact arePlain_textStmts (ih.printed name) lineBreak s

theorem ArePlain.blocksOf_eq {stmts : List Stmt} (h : ArePlain stmts) : blocksOf stmts = [] := by
  induction h with
  | nil => rfl
  | text s _ ih => simp [blocksOf, Stmt.blocks, ih]
  | printed name _ ih => simp [blocksOf, Stmt.blocks, ih]

theorem ArePlain.checkStmts_eq {stmts : List Stmt} (h : ArePlain stmts) :
    checkStmts ⟨false, true, false⟩ stmts = .ok () := by
  induction h with
  | nil => rfl
  | text s _ ih =>
      simp only [checkStmts, checkStmt]
      exact ih
  | printed name _ ih =>
      simp only [checkStmts, checkStmt, checkExpr, Bool.false_eq_true, if_false]
      exact ih

/-- Nothing is wrong with texts and printed names. -/
theorem ArePlain.check_eq {stmts : List Stmt} (h : ArePlain stmts) : check stmts = .ok [] := by
  rw [check, h.blocksOf_eq, h.checkStmts_eq]
  rfl

end EntryTemplates.Render
