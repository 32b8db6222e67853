/-
**How names that are not known are reported.**

A template is looked up by a framework and a style together, and if one of them is not known both
are reported as they were given.  A list reads the two one after the other, each beside a name that
stands in for the other one: the style `auto_main` beside the framework, the framework `catch2`
beside the style.  Its report shows the stand-in, so it names what is not known as it was given, and
beside it something that may not have been asked for.

Main definitions:

* `EntryTemplates.Catalogue.AsksForStandIn` — what stands in for a name is what was asked for;
* `EntryTemplates.Catalogue.ReportsUnknown` — how a lookup and a list report names.

Main results:

* `EntryTemplates.Report.details_notFound_inj` — the details of a report tell the two names;
* `EntryTemplates.Catalogue.parse_of_label` — what reports show by the name of a member is known;
* `EntryTemplates.Catalogue.unknown_names_reported` — **how names that are not known are reported**;
* `EntryTemplates.Catalogue.stand_in_reported` — a style in a report that nobody asked for.
-/

import EntryTemplates.Proofs.Catalogue.Lookups

set_option relaxedAutoImplicit false
set_option autoImplicit false

namespace EntryTemplates

/-! ### What a report tells of the names -/

theorem named_of_ne {title s : String} (h : s ≠ "") :
    named title (some s) = [(title, .text s)] := by
  unfold named
  split
  · rename_i heq
    exact absurd (Option.some.inj heq) h
  · rename_i heq
    rw [Option.some.inj heq]
  · rename_i heq
    cases heq

/-- A text under its title tells the text. -/
theorem named_inj {title s s' : String} :
    named title (some s) = named title (some s') ↔ s = s' := by
  constructor
  · intro h
    by_cases hs : s = ""
    · by_cases hs' : s' = ""
      · rw [hs, hs']
      · rw [hs, named_of_ne hs'] at h
        cases h
    · by_cases hs' : s' = ""
      · rw [hs', named_of_ne hs] at h
        cases h
      · rw [named_of_ne hs, named_of_ne hs'] at h
        obtain ⟨hentry, -⟩ := List.cons.inj h
        exact Datum.text.inj (Prod.mk.inj hentry).2
  · rintro rfl
    rfl

/-- What stands under one of several titles. -/
theorem filter_named (title wanted : String) (s : Option String) :
    (named title s).filter (fun entry => entry.1 = wanted) =
      if title = wanted then named title s else [] := by
  unfold named
  split
  · simp
  · by_cases h : title = wanted <;> simp [h]
  · simp

namespace Report

variable {framework framework' style style' : String}

theorem filter_details_notFound (wanted : String) :
    (notFound framework style).details.filter (fun entry => entry.1 = wanted) =
      (if "template_name" = wanted then
        named "template_name" (pairName? (some framework) (some style)) else []) ++
      (if "framework" = wanted then named "framework" (some framework) else []) ++
      (if "style" = wanted then named "style" (some style) else []) := by
  rw [details, notFound, Cause.details, List.filter_append, List.filter_append, filter_named,
    filter_named, filter_named]

/-- **The details of a report tell the two names**, also where one of them is empty. -/
theorem details_notFound_inj :
    (notFound framework style).details = (notFound framework' style').details ↔
      framework = framework' ∧ style = style' := by
  constructor
  · intro h
    have hunder (wanted : String) := congrArg
      (fun entries => entries.filter fun entry => entry.1 = wanted) h
    have hframework := hunder "framework"
    have hstyle := hunder "style"
    simp only [filter_details_notFound] at hframework hstyle
    exact ⟨named_inj.1 (by simpa using hframework), named_inj.1 (by simpa using hstyle)⟩
  · rintro ⟨rfl, rfl⟩
    rfl

theorem message_notFound_framework :
    (notFound framework style).message = (notFound framework' style).message ↔
      framework = framework' := by
  simp only [notFound, ← String.toList_inj, String.toList_append, List.append_left_inj,
    List.append_right_inj]

theorem message_notFound_style :
    (notFound framework style).message = (notFound framework style').message ↔
      style = style' := by
  simp only [notFound, ← String.toList_inj, String.toList_append, List.append_right_inj]

end Report

namespace Catalogue

/-! ### What stands in for a name -/

variable {c : Catalogue} {framework style : Argument}

/-- What reports show by the name of a member is read as that member, if the members of all
vocabularies are. -/
theorem parse_of_label {α : Type} [Nameable α] {a : Argument} {x : α}
    (hname : (Vocabulary.read (Vocabulary.name x) : Except UnknownName α) = .ok x)
    (hmember : ∀ m : Member, (Argument.member m).label = .ok (Vocabulary.name x) →
      (Argument.member m).parse = .ok x)
    (h : a.label = .ok (Vocabulary.name x)) : a.parse = .ok x := by
  cases a with
  | plain d =>
      replace h : d.asText = .ok (Vocabulary.name x) := h
      rw [Argument.parse, h, Argument.readText, hname]
      rfl
  | member m => exact hmember m h

theorem parse_of_label_catch2 (h : framework.label = .ok Framework.catch2.name) :
    framework.parse = .ok Framework.catch2 := by
  refine parse_of_label (by decide) (fun m => ?_) h
  rcases m with (_ | _ | _) | (_ | _) | (_ | _) | (_ | _) <;> decide

theorem parse_of_label_autoMain (h : style.label = .ok Style.autoMain.name) :
    style.parse = .ok Style.autoMain := by
  refine parse_of_label (by decide) (fun m => ?_) h
  rcases m with (_ | _ | _) | (_ | _) | (_ | _) | (_ | _) <;> decide

/-- What stands in for one of two names in the report of a list is what was asked for. -/
def AsksForStandIn (framework style : Argument) : Prop :=
  framework.label = .ok Framework.catch2.name ∨ style.label = .ok Style.autoMain.name

/-- Beside a framework that is not known, `auto_main` stands in for the style. -/
theorem asksForStandIn_of_unknown_framework (h : ∀ f : Framework, framework.parse ≠ .ok f) :
    AsksForStandIn framework style ↔ style.label = .ok Style.autoMain.name :=
  or_iff_right fun hlabel => h .catch2 (parse_of_label_catch2 hlabel)

/-- Beside a style that is not known, `catch2` stands in for the framework. -/
theorem asksForStandIn_of_unknown_style (h : ∀ s : Style, style.parse ≠ .ok s) :
    AsksForStandIn framework style ↔ framework.label = .ok Framework.catch2.name :=
  or_iff_left fun hlabel => h .autoMain (parse_of_label_autoMain hlabel)

/-! ### The two reports -/

/-- **How a lookup and a list report names** of which one is not known, where the two are shown as
`shownFramework` and `shownStyle`. -/
structure ReportsUnknown (c : Catalogue) (framework style : Argument)
    (shownFramework shownStyle : String) (found listed : Report) : Prop where
  get : c.get framework style = .error (.report found)
  list : c.list framework style = .error (.report listed)
  /-- Both say that a template is not found. -/
  title : found.title = "TemplateNotFoundError" ∧ listed.title = found.title
  /-- A lookup reports what was asked for. -/
  asked : found = .notFound shownFramework shownStyle
  /-- A list reports a framework that is not known, whatever the style is. -/
  unknownFramework : (∀ f : Framework, framework.parse ≠ .ok f) →
    listed = .notFound shownFramework Style.autoMain.name
  /-- It reports a style that is not known if the framework is. -/
  unknownStyle : ∀ f : Framework, framework.parse = .ok f →
    listed = .notFound Framework.catch2.name shownStyle
  /-- The two have the same message exactly if what stands in was asked for. -/
  message : listed.message = found.message ↔ AsksForStandIn framework style
  /-- So it is with their details. -/
  details : listed.details = found.details ↔ AsksForStandIn framework style

section Unknown

variable {shownFramework shownStyle : String} (hframework : framework.isNull = false)
  (hstyle : style.isNull = false) (hshown : framework.label = .ok shownFramework)
  (hshownStyle : style.label = .ok shownStyle)
include hframework hshown hshownStyle

theorem reportsUnknown_of_unknown_framework (h : ∀ f : Framework, framework.parse ≠ .ok f) :
    ReportsUnknown c framework style shownFramework shownStyle
      (.notFound shownFramework shownStyle) (.notFound shownFramework Style.autoMain.name) where
  get := by rw [get_of_unknown (Or.inl h), unknownPair_of_labels hshown hshownStyle]
  list := by rw [list_of_unknown_framework hframework h, unknownPair_of_labels hshown rfl]
  title := ⟨rfl, rfl⟩
  asked := rfl
  unknownFramework _ := rfl
  unknownStyle f hf := absurd hf (h f)
  message := by
    rw [Report.message_notFound_style, asksForStandIn_of_unknown_framework h, hshownStyle,
      Except.ok.injEq, eq_comm]
  details := by
    rw [Report.details_notFound_inj, asksForStandIn_of_unknown_framework h, hshownStyle,
      Except.ok.injEq, eq_self, true_and, eq_comm]

include hstyle

theorem reportsUnknown_of_unknown_style {f : Framework} (hf : framework.parse = .ok f)
    (h : ∀ s : Style, style.parse ≠ .ok s) :
    ReportsUnknown c framework style shownFramework shownStyle
      (.notFound shownFramework shownStyle) (.notFound Framework.catch2.name shownStyle) where
  get := by rw [get_of_unknown (Or.inr h), unknownPair_of_labels hshown hshownStyle]
  list := by rw [list_of_unknown_style hframework hstyle hf h, unknownPair_of_labels rfl hshownStyle]
  title := ⟨rfl, rfl⟩
  asked := rfl
  unknownFramework hnone := absurd hf (hnone f)
  unknownStyle _ _ := rfl
  message := by
    rw [Report.message_notFound_framework, asksForStandIn_of_unknown_style h, hshown,
      Except.ok.injEq, eq_comm]
  details := by
    rw [Report.details_notFound_inj, asksForStandIn_of_unknown_style h, hshown, Except.ok.injEq,
      eq_self, and_true, eq_comm]

end Unknown

/-- **How names that are not known are reported.**  A lookup reports a framework and a style as they
were given.  A list reports the first of the two that is not known as it was given, beside a
stand-in for the other one, and reads like the lookup exactly if the stand-in was asked for.  A
number of too many digits is not reported at all. -/
theorem unknown_names_reported (c : Catalogue) (framework style : Argument)
    (hframework : framework.isNull = false) (hstyle : style.isNull = false)
    (h : IsUnknown framework style) :
    (∀ shownFramework shownStyle, framework.label = .ok shownFramework →
      style.label = .ok shownStyle →
      ∃ found listed, ReportsUnknown c framework style shownFramework shownStyle found listed) ∧
    FailsUnwritten c framework style := by
  refine ⟨fun shownFramework shownStyle hshown hshownStyle => ?_,
    failsUnwritten hframework hstyle⟩
  by_cases hf : ∃ f : Framework, framework.parse = .ok f
  · obtain ⟨f, hf⟩ := hf
    have hs : ∀ s : Style, style.parse ≠ .ok s := h.resolve_left fun hnone => hnone f hf
    exact ⟨_, _, reportsUnknown_of_unknown_style hframework hstyle hshown hshownStyle hf hs⟩
  · exact ⟨_, _, reportsUnknown_of_unknown_framework hframework hshown hshownStyle
      (not_exists.1 hf)⟩

theorem isUnknown_no_main : IsUnknown (.ofString "doctest") (.ofString "no_main") :=
  Or.inr fun s => by cases s <;> decide +kernel

/-- Asked for a style of doctest that is not known, a list names Catch2. -/
theorem unknown_names_reported_no_main :
    IsUnknown (.ofString "doctest") (.ofString "no_main") ∧
    empty.get (.ofString "doctest") (.ofString "no_main") =
      .error (.report (.notFound "doctest" "no_main")) ∧
    empty.list (.ofString "doctest") (.ofString "no_main") =
      .error (.report (.notFound "catch2" "no_main")) := by
  obtain ⟨found, listed, h⟩ :=
    (unknown_names_reported empty (.ofString "doctest") (.ofString "no_main") rfl rfl
      isUnknown_no_main).1 "doctest" "no_main" rfl rfl
  have hdoctest : (Argument.ofString "doctest").parse = .ok Framework.doctest := by
    decide +kernel
  have hasked : found = .notFound "doctest" "no_main" := h.asked
  have hlisted : listed = .notFound "catch2" "no_main" := h.unknownStyle .doctest hdoctest
  exact ⟨isUnknown_no_main, hasked ▸ h.get, hlisted ▸ h.list⟩

/-- **A style in a report that nobody asked for**: the framework is not known and the style is, and
the list reports another style than the lookup. -/
theorem stand_in_reported :
    ∃ found listed,
      empty.get (.ofString "boost_test") (.ofString "custom_main") = .error (.report found) ∧
      empty.list (.ofString "boost_test") (.ofString "custom_main") = .error (.report listed) ∧
      found.message = "Template not found: boost_test/custom_main" ∧
      listed.message = "Template not found: boost_test/auto_main" ∧
      listed.details ≠ found.details := by
  have hunknown : ∀ f : Framework, (Argument.ofString "boost_test").parse ≠ .ok f := by
    intro f
    cases f <;> decide +kernel
  refine ⟨_, _, get_of_unknown (Or.inl hunknown), list_of_unknown_framework rfl hunknown,
    by decide, by decide, ?_⟩
  rw [Ne, Report.details_notFound_inj]
  exact fun h => absurd h.2 (by decide)

end Catalogue

end EntryTemplates
