/-
**What a catalogue renders.**

A template that only prints names is filled in with their values: nothing in a value is read again,
and only the text between the names gets line breaks of one kind.  So a text in which no tag begins
is rendered with a context as it is without one only if its line breaks are of one kind already.

Main results:

* `EntryTemplates.Catalogue.render_outline` — **what a template that only prints names makes**;
* `EntryTemplates.Catalogue.render_untagged` — **which texts without tags come back unchanged**;
* `EntryTemplates.Catalogue.render_untagged_differs` — a text that does not.
-/

import EntryTemplates.Catalogue
import EntryTemplates.Proofs.Render.OutlineRun

set_option relaxedAutoImplicit false
set_option autoImplicit false

namespace EntryTemplates.Catalogue

open Render (Context Outline IsLiteral IsFreeName lineBreakOf setBreaks breaks)

/-! ### Rendering with and without a context -/

section Rendering

variable {c : Catalogue} {framework style : Argument} {t : Template} {context : Context}

theorem render_of_get (h : c.get framework style = .ok t) :
    c.render framework style context = renderTemplate t context := by
  rw [render, h]
  rfl

theorem renderTemplate_of_ok {s : String} (hcontext : context ≠ [])
    (h : Render.render t.content context = .ok s) : renderTemplate t context = .ok s := by
  rw [renderTemplate, if_neg (by simpa using hcontext), h]

theorem renderTemplate_of_error {e : Render.Failure} (hcontext : context ≠ [])
    (h : Render.render t.content context = .error e) :
    renderTemplate t context = .error (renderFault t context e) := by
  rw [renderTemplate, if_neg (by simpa using hcontext), h]

/-! ### Templates that only print names -/

/-- **What a template that only prints names makes** with a context.  If all names have values with
texts, it is filled in with these; the text between the names gets the line breaks of the template,
the texts of values stay as they are.  Otherwise the first name without a value is reported, unless
the value of a name before it cannot be written. -/
theorem render_outline {o : Outline} (hget : c.get framework style = .ok t) (ho : o.IsPlain)
    (hcontent : t.content.toList = o.source) (hcontext : context ≠ [])
    (hself : "self" ∉ context.map Prod.fst) :
    (∀ text : String → String,
      (∀ n ∈ o.names, ∃ v, context.lookup n = some v ∧ v.asText = .ok (text n)) →
      c.render framework style context = .ok (String.ofList
        (o.filled (lineBreakOf t.content.toList).toList fun n => (text n).toList))) ∧
    ∀ before name after, o.names = before ++ name :: after →
      (∀ n ∈ before, ∃ v s, context.lookup n = some v ∧ v.asText = .ok s) →
      (context.lookup name = none → c.render framework style context = .error (.report
        ⟨.rendering (some t.name) (context.map Prod.fst),
          "Undefined variable: '" ++ name ++ "' is undefined"⟩)) ∧
      ∀ v n, context.lookup name = some v → v.asText = .error n →
        c.render framework style context = .error (.rendering .wrongValue n.message) := by
  rw [render_of_get hget, hcontent]
  constructor
  · intro text htext
    refine renderTemplate_of_ok hcontext (Render.render_filled ho hcontent hself fun n hn => ?_)
    obtain ⟨v, hv, hs⟩ := htext n hn
    rw [Render.printedName_of_some hv, hs]
    rfl
  · intro before name after hnames hbefore
    have hprinted (n : String) (hn : n ∈ before) : ∃ s, Render.printedName context n = .ok s := by
      obtain ⟨v, s, hv, hs⟩ := hbefore n hn
      rw [Render.printedName_of_some hv, hs]
      exact ⟨s, rfl⟩
    have hfailed {e : Render.Failure} (h : Render.printedName context name = .error e) :
        renderTemplate t context = .error (renderFault t context e) :=
      renderTemplate_of_error hcontext
        (Render.render_failed ho hcontent hself hnames hprinted h)
    constructor
    · intro hmissing
      have hname : IsFreeName name := ho.isFreeName (by rw [hnames]; simp)
      rw [hfailed (Render.printedName_of_none hname hmissing), renderFault]
      simp [← String.append_assoc]
    · intro v n hv hn
      refine hfailed (e := .tooLong n) ?_
      rw [Render.printedName_of_some hv, hn]
      rfl

/-- A template with a content. -/
def templateOf (content : String) : Template := { framework := .catch2, style := .autoMain, content }

theorem get_templateOf (content : String) :
    get ⟨[templateOf content]⟩ (.member (.framework .catch2)) (.member (.style .autoMain)) =
      .ok (templateOf content) := rfl

theorem isFreeName_author : IsFreeName "author" where
  start := by simp
  ne_nil := by simp
  chars c hc := by
    have hall : "author".toList.all (fun c => c.isAlphanum || c = '_') = true := by decide
    simpa using List.all_eq_true.1 hall c hc
  noWord := by decide
  noBuiltin := rfl

/-- What looks like a tag in a value is no tag, and its line break stays; a missing value is
reported. -/
theorem render_outline_author :
    render ⟨[templateOf "// \x7b\x7b author \x7d\x7d\r\n\x7b \x7d\n"]⟩
        (.member (.framework .catch2)) (.member (.style .autoMain))
        [("author", .text "\x7b\x7b x \x7d\x7d\n")] =
      .ok "// \x7b\x7b x \x7d\x7d\n\r\n\x7b \x7d\r\n" ∧
    render ⟨[templateOf "// \x7b\x7b author \x7d\x7d\r\n\x7b \x7d\n"]⟩
        (.member (.framework .catch2)) (.member (.style .autoMain)) [("x", .null), ("y", .null)] =
      .error (.report ⟨.rendering (some "catch2/auto_main") ["x", "y"],
        "Undefined variable: 'author' is undefined"⟩) := by
  let o : Outline := .gap ['/', '/', ' '] "author" (.text ['\r', '\n', '\x7b', ' ', '\x7d', '\n'])
  have hfirst : IsLiteral ['/', '/', ' '] := by decide
  have hlast : IsLiteral ['\r', '\n', '\x7b', ' ', '\x7d', '\n'] := by decide
  have hplain : o.IsPlain := ⟨hfirst, by decide, isFreeName_author, hlast⟩
  have hcontent : (templateOf "// \x7b\x7b author \x7d\x7d\r\n\x7b \x7d\n").content.toList =
    o.source := by decide
  constructor
  · have hmade := (@render_outline _ _ _ _ [("author", .text "\x7b\x7b x \x7d\x7d\n")] o
      (get_templateOf _) hplain hcontent (by decide) (by decide)).1
      (fun _ => "\x7b\x7b x \x7d\x7d\n")
    rw [hmade]
    · exact congrArg Except.ok (by decide)
    · intro n hn
      obtain rfl : n = "author" := by simpa [o, Outline.names] using hn
      exact ⟨_, rfl, rfl⟩
  · exact ((render_outline (get_templateOf _) hplain hcontent (by decide) (by decide)).2 []
      "author" [] rfl (by simp)).1 rfl

/-! ### Text without tags -/

/-- **Which texts without tags come back unchanged.**  Without a context the text is rendered as it
is; with one it gets line breaks of one kind, so it is the same exactly if its line breaks are all
line feeds, or all line feeds behind carriage returns. -/
theorem render_untagged (hget : c.get framework style = .ok t)
    (hliteral : IsLiteral t.content.toList) (hcontext : context ≠ [])
    (hself : "self" ∉ context.map Prod.fst) :
    c.render framework style [] = .ok t.content ∧
    c.render framework style context = .ok (String.ofList
      (setBreaks (lineBreakOf t.content.toList).toList t.content.toList)) ∧
    (c.render framework style context = c.render framework style [] ↔
      (∀ b ∈ breaks t.content.toList, b = ['\n']) ∨
        ∀ b ∈ breaks t.content.toList, b = ['\r', '\n']) := by
  have hwithout : c.render framework style [] = .ok t.content := render_of_get hget
  have hwith := (render_of_get hget).trans
    (renderTemplate_of_ok hcontext (Render.render_literal hliteral hself))
  refine ⟨hwithout, hwith, ?_⟩
  rw [hwithout, hwith, ← Render.setBreaks_lineBreakOf_eq_iff, Except.ok.injEq, ← String.toList_inj,
    String.toList_ofList]

/-- With line breaks of one kind only, a text is rendered as it is. -/
theorem render_untagged_pairs :
    render ⟨[templateOf "a\r\n\r\nb"]⟩ (.member (.framework .catch2)) (.member (.style .autoMain))
        [("x", .int 1)] =
      render ⟨[templateOf "a\r\n\r\nb"]⟩ (.member (.framework .catch2)) (.member (.style .autoMain))
        [] :=
  (render_untagged (get_templateOf _) (by decide) (by decide) (by decide)).2.2.2
    (Or.inr (by decide))

/-- **A text with line breaks of two kinds** is not rendered as it is: with a context its line feed
gets a carriage return. -/
theorem render_untagged_differs :
    IsLiteral (templateOf "a\r\nb\nc").content.toList ∧
    render ⟨[templateOf "a\r\nb\nc"]⟩ (.member (.framework .catch2)) (.member (.style .autoMain))
        [("x", .int 1)] = .ok "a\r\nb\r\nc" ∧
    render ⟨[templateOf "a\r\nb\nc"]⟩ (.member (.framework .catch2)) (.member (.style .autoMain))
        [] = .ok "a\r\nb\nc" := by
  have hliteral : IsLiteral (templateOf "a\r\nb\nc").content.toList := by decide
  have hmade : Render.render (templateOf "a\r\nb\nc").content [("x", .int 1)] =
      .ok "a\r\nb\r\nc" :=
    (Render.render_literal hliteral (by decide)).trans (congrArg Except.ok (by decide))
  exact ⟨hliteral, (render_of_get (get_templateOf _)).trans
    (renderTemplate_of_ok (by decide) hmade), rfl⟩

end Rendering

end EntryTemplates.Catalogue
