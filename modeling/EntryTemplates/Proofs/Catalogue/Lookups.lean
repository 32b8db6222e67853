/-
**The lookups of a catalogue agree.**

A catalogue is asked for a template by its framework and style, for its content, for a list of what
there is, whether it holds a pair, and to render.  Each of these reads the names on its own, and the
list looks at the framework and at the style one after the other.  Still they find the same: names
that are both known lead to one key, and the catalogue has at most one template under it.

Main definitions:

* `EntryTemplates.Catalogue.IsUnknown` — one of two names is not known;
* `EntryTemplates.Catalogue.Agree` — the lookups agree on a framework and a style.

Main results:

* `EntryTemplates.Catalogue.filter_key` — the templates under a key are the one that is found;
* `EntryTemplates.Catalogue.list_of_names`, `list_of_framework`, `list_of_style` — what is listed
  for names that are known;
* `EntryTemplates.Catalogue.lookups_agree` — **the lookups agree after any calls**.
-/

import EntryTemplates.Proofs.Catalogue.History
import Mathlib.Tactic.TFAE

set_option relaxedAutoImplicit false
set_option autoImplicit false

namespace EntryTemplates.Catalogue

variable {c : Catalogue} {framework style : Argument} {f : Framework} {s : Style}

/-! ### The names that are asked for -/

/-- One of the names that are asked for is not known. -/
def IsUnknown (framework style : Argument) : Prop :=
  (∀ f : Framework, framework.parse ≠ .ok f) ∨ ∀ s : Style, style.parse ≠ .ok s

/-- One of two names is not known, or both are. -/
theorem isUnknown_or_names (framework style : Argument) :
    IsUnknown framework style ∨
      ∃ (f : Framework) (s : Style), framework.parse = .ok f ∧ style.parse = .ok s := by
  by_cases hf : ∃ f : Framework, framework.parse = .ok f
  · by_cases hs : ∃ s : Style, style.parse = .ok s
    · obtain ⟨⟨f, hf⟩, s, hs⟩ := And.intro hf hs
      exact Or.inr ⟨f, s, hf, hs⟩
    · exact Or.inl (Or.inr fun s heq => hs ⟨s, heq⟩)
  · exact Or.inl (Or.inl fun f heq => hf ⟨f, heq⟩)

theorem resolve_of_names (hf : framework.parse = .ok f) (hs : style.parse = .ok s) :
    resolve framework style = .ok ⟨f, s⟩ :=
  resolve_eq_ok.2 ⟨hf, hs⟩

theorem resolve_of_unknown (h : IsUnknown framework style) :
    resolve framework style = .error (unknownPair framework style) := by
  unfold resolve
  split
  · rename_i f s hf hs
    exact (h.elim (fun h => h f hf) fun h => h s hs).elim
  · rfl

section Report

variable {shownFramework shownStyle : String} {n : Number.TooLong}

/-- A framework and a style that have texts are reported as they were given. -/
theorem unknownPair_of_labels (hf : framework.label = .ok shownFramework)
    (hs : style.label = .ok shownStyle) :
    unknownPair framework style = .report (.notFound shownFramework shownStyle) := by
  rw [unknownPair, hf, hs]

theorem unknownPair_of_framework (h : framework.label = .error n) :
    unknownPair framework style = .tooLong n := by
  rw [unknownPair, h]

/-- Without a text of the style there is no report on the two. -/
theorem unknownPair_of_style (hf : framework.label = .ok shownFramework)
    (hs : style.label = .error n) : unknownPair framework style = .tooLong n := by
  rw [unknownPair, hf, hs]

end Report

theorem wantedFramework_of_name (hnull : framework.isNull = false) (hf : framework.parse = .ok f) :
    wantedFramework framework = .ok (some f) := by
  rw [wantedFramework, hnull, resolve_of_names hf (Argument.parse_style _)]
  rfl

theorem wantedStyle_of_name (hnull : style.isNull = false) (hs : style.parse = .ok s) :
    wantedStyle style = .ok (some s) := by
  rw [wantedStyle, hnull, resolve_of_names (Argument.parse_framework _) hs]
  rfl

theorem wantedFramework_of_unknown (hnull : framework.isNull = false)
    (h : ∀ f : Framework, framework.parse ≠ .ok f) :
    wantedFramework framework =
      .error (unknownPair framework (.member (.style .autoMain))) := by
  rw [wantedFramework, hnull, resolve_of_unknown (Or.inl h)]
  rfl

theorem wantedStyle_of_unknown (hnull : style.isNull = false)
    (h : ∀ s : Style, style.parse ≠ .ok s) :
    wantedStyle style = .error (unknownPair (.member (.framework .catch2)) style) := by
  rw [wantedStyle, hnull, resolve_of_unknown (Or.inr h)]
  rfl

/-! ### What is listed -/

theorem list_of_wanted {wf : Option Framework} {ws : Option Style}
    (hf : wantedFramework framework = .ok wf) (hs : wantedStyle style = .ok ws) :
    c.list framework style =
      .ok (c.templates.filter fun t => suits wf t.framework && suits ws t.style) := by
  rw [list, hf, hs]
  rfl

theorem list_of_framework (hnull : framework.isNull = false) (hf : framework.parse = .ok f) :
    c.list framework .missing = .ok (c.templates.filter fun t => f = t.framework) := by
  rw [list_of_wanted (wantedFramework_of_name hnull hf) rfl]
  simp [suits, eq_comm]

theorem list_of_style (hnull : style.isNull = false) (hs : style.parse = .ok s) :
    c.list .missing style = .ok (c.templates.filter fun t => s = t.style) := by
  rw [list_of_wanted rfl (wantedStyle_of_name hnull hs)]
  simp [suits, eq_comm]

/-- For two names that are known the templates under their key are listed. -/
theorem list_of_names (hframework : framework.isNull = false) (hstyle : style.isNull = false)
    (hf : framework.parse = .ok f) (hs : style.parse = .ok s) :
    c.list framework style = .ok (c.templates.filter fun t => t.key = ⟨f, s⟩) := by
  rw [list_of_wanted (wantedFramework_of_name hframework hf) (wantedStyle_of_name hstyle hs)]
  simp [suits, Template.key]

theorem list_of_unknown_framework (hnull : framework.isNull = false)
    (h : ∀ f : Framework, framework.parse ≠ .ok f) :
    c.list framework style =
      .error (unknownPair framework (.member (.style .autoMain))) := by
  rw [list, wantedFramework_of_unknown hnull h]
  rfl

theorem list_of_unknown_style (hframework : framework.isNull = false)
    (hstyle : style.isNull = false) (hf : framework.parse = .ok f)
    (h : ∀ s : Style, style.parse ≠ .ok s) :
    c.list framework style = .error (unknownPair (.member (.framework .catch2)) style) := by
  rw [list, wantedFramework_of_name hframework hf, wantedStyle_of_unknown hstyle h]
  rfl

/-- The templates under a key are the one that is found under it, if there is one. -/
theorem filter_key (h : (c.templates.map Template.key).Nodup) (k : Key) :
    (c.templates.filter fun t => t.key = k) = (c.find? k).toList := by
  obtain ⟨templates⟩ := c
  rw [find?]
  induction templates with
  | nil => rfl
  | cons t rest ih =>
      obtain ⟨hnew, hrest⟩ := List.nodup_cons.1 h
      by_cases hkey : t.key = k
      · -- no other template has this key
        have hnone : (rest.filter fun u => u.key = k) = [] := by
          refine List.filter_eq_nil_iff.2 fun u hu => ?_
          rw [decide_eq_true_eq, ← hkey]
          exact fun heq => hnew (heq ▸ List.mem_map_of_mem hu)
        rw [List.filter_cons_of_pos (by simpa using hkey), hnone,
          List.find?_cons_of_pos (by simpa using hkey)]
        rfl
      · rw [List.filter_cons_of_neg (by simpa using hkey), ih hrest,
          List.find?_cons_of_neg (by simpa using hkey)]

/-! ### What is found -/

section Names

variable (hf : framework.parse = .ok f) (hs : style.parse = .ok s)
include hf hs

theorem get_of_names {t : Template} :
    c.get framework style = .ok t ↔ c.find? ⟨f, s⟩ = some t := by
  rw [get, resolve_of_names hf hs]
  simp only [bind, Except.bind]
  cases c.find? ⟨f, s⟩ <;> simp

theorem get_of_free (hfree : ⟨f, s⟩ ∉ c.templates.map Template.key) :
    c.get framework style = .error (.report (.notFound f.name s.name)) := by
  rw [get, resolve_of_names hf hs]
  simp only [bind, Except.bind, find?_eq_none_iff.2 hfree]

theorem holds_of_names :
    c.holds [framework, style] = true ↔ ⟨f, s⟩ ∈ c.templates.map Template.key := by
  rw [holds, resolve_of_names hf hs, isSome_find?_iff]

end Names

/-- A framework or a style that is not known is not found. -/
theorem get_of_unknown (h : IsUnknown framework style) :
    c.get framework style = .error (unknownPair framework style) := by
  rw [get, resolve_of_unknown h]
  rfl

theorem holds_of_unknown (h : IsUnknown framework style) :
    c.holds [framework, style] = false := by
  rw [holds, resolve_of_unknown h]

theorem content_eq_ok {text : String} :
    c.content framework style = .ok text ↔
      ∃ t, c.get framework style = .ok t ∧ t.content = text := by
  rw [content]
  cases c.get framework style <;> simp [Except.map]

/-! ### Lookups that agree -/

/-- **Each lookup of a single template fails in the same way.** -/
structure Fails (c : Catalogue) (framework style : Argument) (e : Fault) : Prop where
  holds : c.holds [framework, style] = false
  get : c.get framework style = .error e
  content : c.content framework style = .error e
  render : ∀ context, c.render framework style context = .error e

theorem fails_of_get {e : Fault} (hget : c.get framework style = .error e)
    (hholds : c.holds [framework, style] = false) : Fails c framework style e where
  holds := hholds
  get := hget
  content := by
    rw [Catalogue.content, hget]
    rfl
  render context := by
    rw [Catalogue.render, hget]
    rfl

theorem fails_of_unknown (h : IsUnknown framework style) :
    Fails c framework style (unknownPair framework style) :=
  fails_of_get (get_of_unknown h) (holds_of_unknown h)

/-- **A framework or a style that cannot be written is not found, and cannot be reported.**  A list
does not look at the style beside a framework that is not known. -/
structure FailsUnwritten (c : Catalogue) (framework style : Argument) : Prop where
  ofFramework : ∀ n, framework.label = .error n →
    c.list framework style = .error (.tooLong n) ∧ Fails c framework style (.tooLong n)
  ofStyle : ∀ n shownFramework, framework.label = .ok shownFramework → style.label = .error n →
    ((∃ f : Framework, framework.parse = .ok f) →
      c.list framework style = .error (.tooLong n)) ∧
    ((∀ f : Framework, framework.parse ≠ .ok f) → c.list framework style =
      .error (.report (.notFound shownFramework Style.autoMain.name))) ∧
    Fails c framework style (.tooLong n)

theorem failsUnwritten (hframework : framework.isNull = false) (hstyle : style.isNull = false) :
    FailsUnwritten c framework style where
  ofFramework n h := by
    have hunknown := Argument.parse_ne_of_label (α := Framework) h
    have hpair : unknownPair framework style = .tooLong n := unknownPair_of_framework h
    refine ⟨?_, hpair ▸ fails_of_unknown (Or.inl hunknown)⟩
    rw [list_of_unknown_framework hframework hunknown, unknownPair_of_framework h]
  ofStyle n shownFramework hf hs := by
    have hunknown := Argument.parse_ne_of_label (α := Style) hs
    refine ⟨fun ⟨f, hparse⟩ => ?_, fun hnone => ?_,
      unknownPair_of_style hf hs ▸ fails_of_unknown (Or.inr hunknown)⟩
    · rw [list_of_unknown_style hframework hstyle hparse hunknown, unknownPair_of_style rfl hs]
    · rw [list_of_unknown_framework hframework hnone, unknownPair_of_labels hf rfl]

/-- **The lookups agree on a framework and a style.** -/
structure Agree (c : Catalogue) (framework style : Argument) : Prop where
  /-- Each of them finds a template if any other does. -/
  tfae : [c.holds [framework, style] = true, ∃ t, c.get framework style = .ok t,
    ∃ text, c.content framework style = .ok text, ∃ t, c.list framework style = .ok [t]].TFAE
  /-- A single template is listed exactly if it is the one that is found. -/
  single : ∀ t, c.list framework style = .ok [t] ↔ c.get framework style = .ok t
  /-- The content of the template that is found is what is given and rendered. -/
  content : ∀ t, c.get framework style = .ok t →
    c.content framework style = .ok t.content ∧ c.render framework style [] = .ok t.content
  /-- Where two known names lead to no template, nothing is listed and nothing is found. -/
  free : ∀ (f : Framework) (s : Style), framework.parse = .ok f → style.parse = .ok s →
    ⟨f, s⟩ ∉ c.templates.map Template.key →
      c.list framework style = .ok [] ∧
      Fails c framework style (.report (.notFound f.name s.name))
  /-- A name that is not known is not found by any of them. -/
  unknown : IsUnknown framework style → ∀ shownFramework shownStyle,
    framework.label = .ok shownFramework → style.label = .ok shownStyle →
      (∃ f s, c.list framework style = .error (.report (.notFound f s))) ∧
      Fails c framework style (.report (.notFound shownFramework shownStyle))
  /-- A number of too many digits is not found either, and not reported. -/
  unwritten : FailsUnwritten c framework style
  /-- For two known names those templates are listed, in the order of all, that are listed for each
  of the two. -/
  common : ∀ (f : Framework) (s : Style), framework.parse = .ok f → style.parse = .ok s →
    ∃ all ofFramework ofStyle, c.list .missing .missing = .ok all ∧
      c.list framework .missing = .ok ofFramework ∧ c.list .missing style = .ok ofStyle ∧
      c.list framework style = .ok (all.filter fun t => t ∈ ofFramework ∧ t ∈ ofStyle)

section Agreement

variable (hnodup : (c.templates.map Template.key).Nodup) (hframework : framework.isNull = false)
  (hstyle : style.isNull = false)
include hframework hstyle

/-- The list for a name that is not known is refused; the framework is looked at first, each of the
two beside a name that stands in for the other one. -/
theorem list_of_unknown (h : IsUnknown framework style) :
    (∃ f : Framework, framework.parse = .ok f ∧ ∀ s : Style, style.parse ≠ .ok s) ∧
        c.list framework style = .error (unknownPair (.member (.framework .catch2)) style) ∨
      (∀ f : Framework, framework.parse ≠ .ok f) ∧
        c.list framework style = .error (unknownPair framework (.member (.style .autoMain))) := by
  by_cases hf : ∃ f : Framework, framework.parse = .ok f
  · obtain ⟨f, hf⟩ := hf
    have hs : ∀ s : Style, style.parse ≠ .ok s := h.resolve_left fun h => h f hf
    exact Or.inl ⟨⟨f, hf, hs⟩, list_of_unknown_style hframework hstyle hf hs⟩
  · have hf := not_exists.1 hf
    exact Or.inr ⟨hf, list_of_unknown_framework hframework hf⟩

include hnodup

/-- A single template is listed exactly if it is the one that is found. -/
theorem list_eq_singleton_iff {t : Template} :
    c.list framework style = .ok [t] ↔ c.get framework style = .ok t := by
  rcases isUnknown_or_names framework style with h | ⟨f, s, hf, hs⟩
  · rcases list_of_unknown (c := c) hframework hstyle h with ⟨-, hlist⟩ | ⟨-, hlist⟩ <;>
      rw [hlist, get_of_unknown h] <;> simp
  · rw [list_of_names hframework hstyle hf hs, filter_key hnodup, get_of_names hf hs,
      Except.ok.injEq]
    cases c.find? ⟨f, s⟩ <;> simp

theorem tfae_found :
    [c.holds [framework, style] = true, ∃ t, c.get framework style = .ok t,
      ∃ text, c.content framework style = .ok text,
      ∃ t, c.list framework style = .ok [t]].TFAE := by
  tfae_have 1 ↔ 2 := by
    rcases isUnknown_or_names framework style with h | ⟨f, s, hf, hs⟩
    · simp [holds_of_unknown h, get_of_unknown h]
    · simp only [holds_of_names hf hs, get_of_names hf hs, ← isSome_find?_iff,
        Option.isSome_iff_exists]
  tfae_have 2 ↔ 3 := by
    simp [content_eq_ok]
  tfae_have 2 ↔ 4 := by
    simp only [list_eq_singleton_iff hnodup hframework hstyle]
  tfae_finish

/-- Lookups agree if no two templates have the same key. -/
theorem agree_of_nodup : Agree c framework style where
  tfae := tfae_found hnodup hframework hstyle
  single t := list_eq_singleton_iff hnodup hframework hstyle
  content t hget := by
    refine ⟨content_eq_ok.2 ⟨t, hget, rfl⟩, ?_⟩
    rw [render, hget]
    rfl
  free f s hf hs hfree := by
    have hholds : c.holds [framework, style] = false := by
      rw [← Bool.not_eq_true, holds_of_names hf hs]
      exact hfree
    refine ⟨?_, fails_of_get (get_of_free hf hs hfree) hholds⟩
    rw [list_of_names hframework hstyle hf hs, filter_key hnodup, find?_eq_none_iff.2 hfree]
    rfl
  unknown h shownFramework shownStyle hf hs := by
    refine ⟨?_, unknownPair_of_labels hf hs ▸ fails_of_unknown h⟩
    rcases list_of_unknown (c := c) hframework hstyle h with ⟨-, hlist⟩ | ⟨-, hlist⟩
    · exact ⟨_, _, hlist.trans (congrArg _ (unknownPair_of_labels rfl hs))⟩
    · exact ⟨_, _, hlist.trans (congrArg _ (unknownPair_of_labels hf rfl))⟩
  unwritten := failsUnwritten hframework hstyle
  common f s hf hs := by
    refine ⟨_, _, _, list_missing c, list_of_framework hframework hf, list_of_style hstyle hs, ?_⟩
    rw [list_of_names hframework hstyle hf hs]
    refine congrArg Except.ok (List.filter_congr fun t ht => ?_)
    refine decide_eq_decide.2 ?_
    simp only [List.mem_filter, ht, true_and, decide_eq_true_eq, Template.key, Key.mk.injEq]
    exact and_congr eq_comm eq_comm

end Agreement

/-- Only a pair is ever held. -/
theorem holds_of_not_pair (c : Catalogue) {parts : List Argument} (h : parts.length ≠ 2) :
    c.holds parts = false := by
  unfold holds
  split
  · exact absurd rfl h
  · rfl

/-- A value is held exactly if its parts are two names that are held. -/
theorem holdsValue_eq_true_iff (c : Catalogue) (d : Datum) :
    c.holdsValue d = true ↔
      ∃ framework style, partsOf? d = some [framework, style] ∧
        c.holds [framework, style] = true := by
  rw [holdsValue]
  cases partsOf? d with
  | none => simp
  | some parts =>
      rw [Option.any_some]
      constructor
      · intro h
        by_cases hpair : parts.length = 2
        · obtain ⟨framework, style, rfl⟩ := List.length_eq_two.1 hpair
          exact ⟨framework, style, rfl, h⟩
        · rw [holds_of_not_pair c hpair] at h
          cases h
      · rintro ⟨framework, style, hparts, h⟩
        rwa [Option.some.inj hparts]

/-- **The lookups agree after any calls**, on every framework and style that are given.  The
templates are listed in the order in which their keys were first named, and what has other parts
than two names is not held. -/
theorem lookups_agree (calls : List Registration) (framework style : Argument)
    (hframework : framework.isNull = false) (hstyle : style.isNull = false) :
    Agree (after calls) framework style ∧
    KeysFollow (calls.map Registration.key) ((after calls).templates.map Template.key) ∧
    (∀ parts, parts.length ≠ 2 → (after calls).holds parts = false) ∧
    ∀ d, (after calls).holdsValue d = true ↔
      ∃ a b, partsOf? d = some [a, b] ∧ (after calls).holds [a, b] = true := by
  have hkeys := keysFollow_after calls
  exact ⟨agree_of_nodup hkeys.nodup hframework hstyle, hkeys,
    fun parts => holds_of_not_pair _, holdsValue_eq_true_iff _⟩

/-- A template without content. -/
def bareTemplate (k : Key) : Template :=
  { framework := k.framework, style := k.style, content := "" }

/-- Names in any case and with white space around them lead to the only template there is. -/
theorem lookups_agree_capitals :
    (after [⟨bareTemplate ⟨.catch2, .customMain⟩, false⟩]).list (.ofString "  CATCH2\n")
        (.ofString "Custom_Main") = .ok [bareTemplate ⟨.catch2, .customMain⟩] ∧
    (after [⟨bareTemplate ⟨.catch2, .customMain⟩, false⟩]).holds
        [.ofString "  CATCH2\n", .ofString "Custom_Main"] = true := by
  let t : Template := bareTemplate ⟨.catch2, .customMain⟩
  have hagree := (lookups_agree [⟨t, false⟩] (.ofString "  CATCH2\n") (.ofString "Custom_Main")
    rfl rfl).1
  have hget : (after [⟨t, false⟩]).get (.ofString "  CATCH2\n") (.ofString "Custom_Main") =
      .ok t :=
    get_eq_ok.2 ⟨t.key, ⟨by decide +kernel, by decide +kernel⟩, by decide +kernel⟩
  have hlist := (hagree.single t).2 hget
  exact ⟨hlist, (hagree.tfae.out 0 3 rfl rfl).2 ⟨t, hlist⟩⟩

/-- A number with one digit more than can be written. -/
def overlongNumber : Argument := .plain (.int ((Nat.pow 10 Number.digitLimit : Nat) : Int))

theorem label_overlongNumber : overlongNumber.label = .error .written := by
  have hlabel (i : Int) : (Argument.plain (.int i)).label = Number.intText i := rfl
  rw [overlongNumber, hlabel, Number.intText_of_le (Nat.le_of_eq (Int.natAbs_natCast _).symm)]

/-- **A mapping is held by its keys**, though it is no pair of names, and **a number of too many
digits** is not reported as not found. -/
theorem mapping_held :
    (after [⟨bareTemplate ⟨.catch2, .autoMain⟩, false⟩]).holdsValue
        (.map [(.text "catch2", .int 1), (.text "auto_main", .int 2)]) = true ∧
    IsUnknown overlongNumber (.ofString "auto_main") ∧
    (after [⟨bareTemplate ⟨.catch2, .autoMain⟩, false⟩]).list overlongNumber
        (.ofString "auto_main") = .error (.tooLong .written) :=
  ⟨by decide +kernel, Or.inl (Argument.parse_ne_of_label label_overlongNumber),
    ((failsUnwritten rfl rfl).ofFramework _ label_overlongNumber).1⟩

end EntryTemplates.Catalogue
