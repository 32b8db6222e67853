/-
**What an outline makes.**

An outline is run as a sequence of texts and printed names.  It makes these texts and those of the
values, unless a name has no value, or one that cannot be written: then the first such name is what
it fails for.

Main definitions:

* `EntryTemplates.Render.printedName` — what a name is printed as, if it can be.

Main results:

* `EntryTemplates.Render.asText_ofDatum` — the text of data is what a template makes of them;
* `EntryTemplates.Render.runBody_cons_of_ok` — statements make their texts one behind the other;
* `EntryTemplates.Render.render_filled` — **an outline is filled in with the values of its names**;
* `EntryTemplates.Render.render_failed` — **the first name that is not printed** is what it fails
  for.
-/

import EntryTemplates.Proofs.Render.OutlineStmts
import Mathlib.Data.List.Basic

set_option relaxedAutoImplicit false
set_option autoImplicit false

namespace EntryTemplates.Render

/-! ### Values -/

mutual

/-- Data look as values as they look as data. -/
theorem shown_ofDatum (describe : Nat → Wording) (d : Datum) :
    (Value.ofDatum d).shown describe = d.shown := by
  cases d with
  | list items => rw [Value.ofDatum, Value.shown, shownAll_ofData, Datum.shown]
  | tuple items => rw [Value.ofDatum, Value.shown, shownAll_ofData, Datum.shown]
  | map entries => rw [Value.ofDatum, Value.shown, shownEntries_ofEntries, Datum.shown]
  | null => rfl
  | bool b => rfl
  | int i => rfl
  | float x => rfl
  | text s => rfl
  | loose t => rfl
  | bytes bs => rfl
  | date year month day => rfl
  | moment m => rfl
  | set items => rfl
  | again curly => rfl

theorem shownAll_ofData (describe : Nat → Wording) (ds : List Datum) :
    Value.shownAll describe (Value.ofData ds) = Datum.shownAll ds := by
  cases ds with
  | nil => rfl
  | cons d ds =>
      rw [Value.ofData, Value.shownAll, shown_ofDatum, shownAll_ofData, Datum.shownAll]

theorem shownEntries_ofEntries (describe : Nat → Wording) (entries : List (Datum × Datum)) :
    Value.shownEntries describe (Value.ofEntries entries) = Datum.shownEntries entries := by
  cases entries with
  | nil => rfl
  | cons entry entries =>
      obtain ⟨k, v⟩ := entry
      rw [Value.ofEntries, Value.shownEntries, shown_ofDatum, shown_ofDatum,
        shownEntries_ofEntries, Datum.shownEntries]

end

/-- **The text of data is what a template makes of them.** -/
theorem asText_ofDatum (describe : Nat → Wording) (d : Datum) :
    (Value.ofDatum d).asText describe = d.asText.mapError .tooLong := by
  cases d with
  | text s => rfl
  | loose t => rfl
  | bytes bs => rfl
  | date year month day => rfl
  | moment m => rfl
  | set items => rfl
  | again curly => rfl
  | null => rfl
  | bool b => rfl
  | int i => rfl
  | float x => rfl
  | list items => exact congrArg (Except.mapError _) (shown_ofDatum describe (.list items))
  | tuple items => exact congrArg (Except.mapError _) (shown_ofDatum describe (.tuple items))
  | map entries => exact congrArg (Except.mapError _) (shown_ofDatum describe (.map entries))

/-! ### Running an outline -/

theorem Eval.bind_of_ok {α β : Type} {x : Eval α} {f : α → Eval β} {m m' : Memory} {a : α}
    (h : x m = .ok (a, m')) : (x >>= f) m = f a m' := by
  change (x m >>= fun p => f p.1 p.2) = f a m'
  rw [h]
  rfl

theorem Eval.bind_of_error {α β : Type} {x : Eval α} {f : α → Eval β} {m : Memory} {e : Failure}
    (h : x m = .error e) : (x >>= f) m = .error e := by
  change (x m >>= fun p => f p.1 p.2) = .error e
  rw [h]
  rfl

section Start

variable (context : Context) (lineBreak : String)

theorem lookup_map_ofDatum (name : String) :
    (context.map fun (n, v) => (n, Value.ofDatum v)).lookup name =
      (context.lookup name).map Value.ofDatum := by
  induction context with
  | nil => rfl
  | cons entry context ih =>
      obtain ⟨n, v⟩ := entry
      rw [List.map_cons, List.lookup_cons, List.lookup_cons]
      cases name == n with
      | true => rfl
      | false => exact ih

/-- At the start a name has the value that the context gives it. -/
theorem find?_start {name : String} (hself : name ≠ "self") :
    (Memory.start context [] lineBreak).find? 0 name = (context.lookup name).map Value.ofDatum := by
  have hscope : (Memory.start context [] lineBreak).scopes[0]? =
      some ⟨("self", .object 0) :: context.map fun (n, v) => (n, Value.ofDatum v), none⟩ := rfl
  have hname : (name == "self") = false := by simp [hself]
  change Memory.findWithin _ name 2 0 = _
  rw [Memory.findWithin, hscope]
  simp only [List.lookup_cons, hname, lookup_map_ofDatum, Option.bind_none]
  cases context.lookup name <;> rfl

/-- A name has its value in the context, or none. -/
theorem valueOf_start {name : String} (hname : IsFreeName name) :
    valueOf 0 name (Memory.start context [] lineBreak) =
      .ok (((context.lookup name).map Value.ofDatum).getD
        (absent (Text.quotedString name ++ " is undefined")),
        Memory.start context [] lineBreak) := by
  have hself : name ≠ "self" := by
    rintro rfl
    exact hname.noWord (by decide)
  have hget : (get : Eval Memory) (Memory.start context [] lineBreak) =
    .ok (Memory.start context [] lineBreak, Memory.start context [] lineBreak) := rfl
  rw [valueOf, Eval.bind_of_ok hget, find?_start context lineBreak hself, hname.noBuiltin]
  cases context.lookup name <;> rfl

/-- What a name is printed as: the text of its value, if it has a value and the value a text. -/
def printedName (name : String) : Except Failure String :=
  match context.lookup name with
  | some v => v.asText.mapError .tooLong
  | none => .error (.undefined (.ok (Text.quotedString name ++ " is undefined")))

/-- **A printed name makes the text of its value.** -/
theorem runStmt_printed {name : String} (hname : IsFreeName name) (fuel : Nat) :
    runStmt (fuel + 2) 0 (.print (.name name)) (Memory.start context [] lineBreak) =
      (printedName context name).map fun s => (s, Memory.start context [] lineBreak) := by
  have heval : evalExpr (fuel + 1) 0 (.name name) (Memory.start context [] lineBreak) =
      valueOf 0 name (Memory.start context [] lineBreak) := by rw [evalExpr]
  rw [valueOf_start context lineBreak hname] at heval
  rw [runStmt, Eval.bind_of_ok heval, printedName]
  cases context.lookup name with
  | none => rfl
  | some v =>
      have htext := asText_ofDatum (Memory.start context [] lineBreak).describe v
      change ((Value.ofDatum v).asText (Memory.start context [] lineBreak).describe >>= fun s =>
        Except.ok (s, Memory.start context [] lineBreak)) = _
      rw [htext]
      dsimp only
      cases v.asText.mapError Failure.tooLong <;> rfl

end Start

section Sequence

variable {fuel scope : Nat} {s : Stmt} {m m' : Memory} (stmts : List Stmt)

theorem runBody_nil : runBody (fuel + 1) scope [] m = .ok ("", m) := by
  rw [runBody]
  rfl

/-- What a first statement makes stands before what the others make. -/
theorem runBody_cons_of_ok {text : String} (hs : runStmt fuel scope s m = .ok (text, m')) :
    runBody (fuel + 1) scope (s :: stmts) m =
      (runBody (fuel + 1) scope stmts m').map fun made => (text ++ made.1, made.2) := by
  rw [runBody, runBody, List.mapM_cons, bind_assoc, Eval.bind_of_ok hs]
  cases hstmts : stmts.mapM (runStmt fuel scope) m' with
  | error e =>
      rw [Eval.bind_of_error hstmts, bind_assoc, Eval.bind_of_error hstmts]
      rfl
  | ok made =>
      obtain ⟨texts, m''⟩ := made
      rw [Eval.bind_of_ok hstmts, bind_assoc, Eval.bind_of_ok hstmts]
      exact congrArg (fun t => Except.ok (t, m'')) String.join_cons

theorem runBody_cons_of_error {e : Failure} (hs : runStmt fuel scope s m = .error e) :
    runBody (fuel + 1) scope (s :: stmts) m = .error e := by
  rw [runBody, List.mapM_cons, bind_assoc, Eval.bind_of_error hs]

/-- Text stands before what the statements behind it make. -/
theorem runBody_textStmts (lineBreak s : List Char) :
    runBody (fuel + 2) scope (textStmts lineBreak s ++ stmts) m =
      (runBody (fuel + 2) scope stmts m).map fun made =>
        (String.ofList (setBreaks lineBreak s) ++ made.1, made.2) := by
  rw [textStmts]
  split
  next hs =>
    subst hs
    rw [List.nil_append]
    have hid : (fun made : String × Memory => (String.ofList (setBreaks lineBreak []) ++ made.1,
        made.2)) = id := by
      funext made
      exact congrArg (·, made.2) String.empty_append
    rw [hid]
    cases runBody (fuel + 2) scope stmts m <;> rfl
  next hs =>
    refine runBody_cons_of_ok stmts ?_
    rw [runStmt]
    rfl

end Sequence

section Outlines

variable {o : Outline} (ho : o.IsPlain) {context : Context} (lineBreak : String) (fuel : Nat)

include ho

/-- **An outline is filled in with the values of its names**, if all of them have one. -/
theorem runBody_stmts_filled {text : String → String}
    (htext : ∀ n ∈ o.names, printedName context n = .ok (text n)) :
    runBody (fuel + 3) 0 (o.stmts lineBreak.toList) (Memory.start context [] lineBreak) =
      .ok (String.ofList (o.filled lineBreak.toList fun n => (text n).toList),
        Memory.start context [] lineBreak) := by
  induction o with
  | text s =>
      rw [Outline.stmts, ← List.append_nil (textStmts lineBreak.toList s), runBody_textStmts,
        runBody_nil]
      exact congrArg (fun t => Except.ok (t, _)) String.append_empty
  | gap s name rest ih =>
      obtain ⟨-, -, hname, hrest⟩ := ho
      obtain ⟨hfirst, hothers⟩ := List.forall_mem_cons.1 htext
      have hprint := runStmt_printed context lineBreak hname fuel
      rw [hfirst] at hprint
      rw [Outline.stmts, runBody_textStmts, runBody_cons_of_ok _ hprint, ih hrest hothers]
      simp [Except.map, Outline.filled]

/-- **The first name that is not printed** is the one that an outline fails for. -/
theorem runBody_stmts_failed {before after : List String} {name : String} {e : Failure}
    (hnames : o.names = before ++ name :: after)
    (hbefore : ∀ n ∈ before, ∃ s, printedName context n = .ok s)
    (hfailed : printedName context name = .error e) :
    runBody (fuel + 3) 0 (o.stmts lineBreak.toList) (Memory.start context [] lineBreak) =
      .error e := by
  -- Each gap takes the first name off those that are printed, until the failing one is first.
  induction o generalizing before with
  | text s => simp [Outline.names] at hnames
  | gap s first rest ih =>
      obtain ⟨-, -, hname, hrest⟩ := ho
      have hprint := runStmt_printed context lineBreak hname fuel
      rw [Outline.stmts, runBody_textStmts]
      cases before with
      | nil =>
          obtain ⟨rfl, -⟩ := List.cons.inj hnames
          rw [hfailed] at hprint
          rw [runBody_cons_of_error _ hprint]
          rfl
      | cons n before =>
          obtain ⟨rfl, hothers⟩ := List.cons.inj hnames
          obtain ⟨⟨text, hfirst⟩, hbefore⟩ := List.forall_mem_cons.1 hbefore
          rw [hfirst] at hprint
          rw [runBody_cons_of_ok _ hprint, ih hrest hothers hbefore]
          rfl

end Outlines

/-! ### Rendering an outline -/

/-- A free name needs no escapes between quotes. -/
theorem IsFreeName.quotedString_eq {name : String} (h : IsFreeName name) :
    Text.quotedString name = "'" ++ name ++ "'" := by
  have hquote : Text.quoteFor name.toList = '\'' := by
    rw [Text.quoteFor, if_neg]
    have hmem : '\'' ∉ name.toList := h.not_mem (by decide) (by decide)
    simp [hmem]
  have hchars : name.toList.flatMap (Text.quotedChar '\'') = name.toList := by
    have hchar (c : Char) (hc : c ∈ name.toList) : Text.quotedChar '\'' c = [c] :=
      of_nameChar (p := fun c => Text.quotedChar '\'' c = [c]) (by decide) (h.chars c hc)
    rw [List.flatMap_congr hchar, List.flatMap_singleton']
  rw [Text.quotedString, Text.quoted, hquote, hchars]
  simp [← String.toList_inj]

theorem Outline.IsPlain.isFreeName {o : Outline} (ho : o.IsPlain) {name : String}
    (hname : name ∈ o.names) : IsFreeName name := by
  induction o with
  | text s => exact absurd hname List.not_mem_nil
  | gap s first rest ih =>
      obtain ⟨-, -, hfirst, hrest⟩ := ho
      obtain rfl | hmem := List.mem_cons.1 hname
      · exact hfirst
      · exact ih hrest hmem

/-- What a template makes of a context that does not bind the name of the template itself. -/
theorem Compiled.run_of_not_mem {context : Context} (h : "self" ∉ context.map Prod.fst)
    (p : Compiled) (depth : Nat) :
    p.run depth context =
      (runBody depth 0 p.stmts (Memory.start context p.blocks p.lineBreak)).map Prod.fst := by
  have hany : (context.any fun entry => entry.1 = "self") = false := by
    rw [Bool.eq_false_iff, Ne, List.any_eq_true]
    rintro ⟨entry, hentry, heq⟩
    exact h (List.mem_map.2 ⟨entry, hentry, of_decide_eq_true heq⟩)
  rw [run, if_neg (by simp [hany])]
  rfl

section Rendering

variable {o : Outline} (ho : o.IsPlain) {content : String} (hcontent : content.toList = o.source)
  {context : Context} (hself : "self" ∉ context.map Prod.fst)

include ho hcontent hself

omit hself in
theorem compile_source :
    compile content =
      .ok ⟨o.stmts (lineBreakOf o.source).toList, [], lineBreakOf o.source⟩ := by
  rw [compile, hcontent, parse_source ho]
  simp only [bind, Except.bind]
  rw [(arePlain_stmts o _).check_eq]
  rfl

theorem render_source :
    render content context =
      (runBody (sizeOfStmts (o.stmts (lineBreakOf o.source).toList) + 3000) 0
        (o.stmts (lineBreakOf o.source).toList)
        (Memory.start context [] (lineBreakOf o.source))).map Prod.fst := by
  rw [render, compile_source ho hcontent]
  exact Compiled.run_of_not_mem hself _ _

/-- **An outline is filled in with the values of its names.** -/
theorem render_filled {text : String → String}
    (htext : ∀ n ∈ o.names, printedName context n = .ok (text n)) :
    render content context = .ok (String.ofList
      (o.filled (lineBreakOf o.source).toList fun n => (text n).toList)) := by
  rw [render_source ho hcontent hself, runBody_stmts_filled ho _ _ htext]
  rfl

/-- **The first name that is not printed** is what an outline fails for. -/
theorem render_failed {before after : List String} {name : String} {e : Failure}
    (hnames : o.names = before ++ name :: after)
    (hbefore : ∀ n ∈ before, ∃ s, printedName context n = .ok s)
    (hfailed : printedName context name = .error e) : render content context = .error e := by
  rw [render_source ho hcontent hself, runBody_stmts_failed ho _ _ hnames hbefore hfailed]
  rfl

end Rendering

/-- A free name without a value is undefined. -/
theorem printedName_of_none {context : Context} {name : String} (hname : IsFreeName name)
    (h : context.lookup name = none) :
    printedName context name = .error (.undefined (.ok ("'" ++ name ++ "' is undefined"))) := by
  rw [printedName, h, hname.quotedString_eq, String.append_assoc]
  rfl

theorem printedName_of_some {context : Context} {name : String} {v : Datum}
    (h : context.lookup name = some v) :
    printedName context name = v.asText.mapError .tooLong := by
  rw [printedName, h]

/-- A text in which no tag begins makes itself, with line breaks of one kind. -/
theorem render_literal {content : String} (hliteral : IsLiteral content.toList) {context : Context}
    (hself : "self" ∉ context.map Prod.fst) :
    render content context = .ok (String.ofList
      (setBreaks (lineBreakOf content.toList).toList content.toList)) :=
  have hplain : (Outline.text content.toList).IsPlain := hliteral
  @render_filled _ hplain _ rfl _ hself (fun _ => "") fun _ hmem => absurd hmem List.not_mem_nil

end EntryTemplates.Render
