/-
**The symbol that a template for doctest must contain.**

A template for doctest with a `main` of its own asks for `DOCTEST_CONFIG_IMPLEMENT`, and one without
asks for `DOCTEST_CONFIG_IMPLEMENT_WITH_MAIN`.  The check looks for the first symbol as a text, and
the second one contains it.  So the check cannot tell the two apart: with the longer symbol in the
place of the shorter one, the same is reported on a template.

Main definitions:

* `EntryTemplates.Template.withContent` — a template with another content;
* `EntryTemplates.StandsAlone` — a symbol stands in a text as a word of its own.

Main results:

* `EntryTemplates.Template.implement_judged` — **what the check says about the symbol**;
* `EntryTemplates.Template.second_main_accepted` — a template that has the longer symbol only.
-/

import EntryTemplates.Proofs.Source.LongerWords
import EntryTemplates.Template
import Mathlib.Data.List.Basic

set_option relaxedAutoImplicit false
set_option autoImplicit false

namespace EntryTemplates

open Source (GoesOnWith Lengthens entryName returnTypes)
open Text (isWord occursIn occursIn_append_cons occursIn_append_of_isChain occursIn_concat)

/-- The symbol stands in a text as a word of its own. -/
def StandsAlone (symbol s : List Char) : Prop :=
  ∃ before after, s = before ++ (symbol ++ after) ∧ (∀ c ∈ before.getLast?, isWord c = false) ∧
    ∀ c ∈ after.head?, isWord c = false

/-- The symbol of templates with a `main` of their own. -/
def implement : List Char := "DOCTEST_CONFIG_IMPLEMENT".toList

/-- What follows it in the symbol of the other templates. -/
def withMain : List Char := "_WITH_MAIN".toList

theorem goesOnWith_withMain : GoesOnWith 'T' withMain :=
  ⟨by decide, List.all_iff_forall_prop.1 (by decide)⟩

/-- The longer symbol in the place of the shorter one. -/
theorem lengthens_withMain (before after : List Char) :
    Lengthens 'T' withMain (before ++ (implement ++ after))
      (before ++ (implement ++ (withMain ++ after))) := by
  have hend : implement = implement.dropLast ++ ['T'] := by decide +kernel
  have hcut : ∀ s, before ++ (implement ++ s) = before ++ implement.dropLast ++ 'T' :: s := by
    intro s
    rw [hend]
    simp
  rw [hcut, hcut]
  exact .one _ after

/-! ### Markers -/

/-- Characters that can follow each other in a marker, where the first one ends the symbol only if the
second one would carry it on. -/
def Joined (a b : Char) : Prop := a = 'T' → isWord b = true

instance (a b : Char) : Decidable (Joined a b) := inferInstanceAs (Decidable (_ → _))

/-- **A marker is found with the longer symbol exactly if it is found with the shorter one.** -/
theorem occursIn_withMain {marker : List Char} (hne : marker ≠ []) (hchain : marker.IsChain Joined)
    (hnew : ∀ rest, occursIn marker ("ITH_MAIN".toList ++ rest) = occursIn marker rest)
    (hother : 'W' ∉ marker) (hlast : marker.getLast? ≠ some '_') {before after : List Char}
    (hafter : ∀ c ∈ after.head?, isWord c = false) :
    occursIn marker (before ++ (implement ++ (withMain ++ after))) =
      occursIn marker (before ++ (implement ++ after)) := by
  have hlonger : before ++ (implement ++ (withMain ++ after)) =
      before ++ implement ++ ['_'] ++ 'W' :: ("ITH_MAIN".toList ++ after) := by
    simp only [List.append_assoc]
    rfl
  have hboundary : ∀ a ∈ (before ++ implement).getLast?, ∀ b ∈ after.head?, ¬ Joined a b := by
    intro a ha b hb hjoined
    have hend : (before ++ implement).getLast? = some 'T' := by
      rw [List.getLast?_append]
      rfl
    rw [hend] at ha
    have hword := hjoined (Option.some.inj ha).symm
    rw [hafter b hb] at hword
    cases hword
  rw [hlonger, occursIn_append_cons hother hne, occursIn_concat hlast hne, hnew, ← List.append_assoc,
    occursIn_append_of_isChain hchain hboundary]

namespace Template

/-- A template with another content. -/
def withContent (t : Template) (content : List Char) : Template :=
  { t with content := String.ofList content }

variable {t : Template} {s before after : List Char}

theorem mem_problems_missingMarker {marker : String} : .missingMarker marker ∈ t.problems ↔
    Text.isBlankText t.content.toList = false ∧
      marker ∈ t.framework.profile.required t.style ∧
        occursIn marker.toList t.content.toList = false := by
  rw [problems]
  cases hblank : Text.isBlankText t.content.toList with
  | true => simp
  | false =>
      have hinclude :
          .missingMarker marker ∉ includeProblems t.framework.profile t.content.toList := by
        rw [includeProblems]
        split <;> simp
      have hmain : .missingMarker marker ∉ mainProblems t.style t.content.toList := by
        rw [mainProblems]
        split <;> simp
      have hbrackets : .missingMarker marker ∉ bracketProblems t.content.toList := by
        rw [bracketProblems]
        split <;> simp
      simp only [Bool.false_eq_true, if_false, contentProblems, List.mem_append, hinclude, hmain,
        hbrackets, or_false, false_or, true_and, markerProblems, List.mem_filterMap]
      constructor
      · rintro ⟨name, hname, hmissing⟩
        split at hmissing
        · cases hmissing
        · rename_i hoccurs
          obtain rfl := Problem.missingMarker.inj (Option.some.inj hmissing)
          exact ⟨hname, by simpa using hoccurs⟩
      · rintro ⟨hname, hoccurs⟩
        exact ⟨marker, hname, by rw [hoccurs]; rfl⟩

/-- The longer symbol makes no difference to the markers of doctest. -/
theorem markerProblems_withMain (hafter : ∀ c ∈ after.head?, isWord c = false) :
    markerProblems Framework.doctest.profile .customMain
        (before ++ (implement ++ (withMain ++ after))) =
      markerProblems Framework.doctest.profile .customMain (before ++ (implement ++ after)) := by
  have hmarker : ∀ marker ∈ Framework.doctest.profile.required .customMain,
      marker.toList ≠ [] ∧ marker.toList.IsChain Joined ∧ 'W' ∉ marker.toList ∧
        marker.toList.getLast? ≠ some '_' := by decide
  have hnew : ∀ marker ∈ Framework.doctest.profile.required .customMain, ∀ rest,
      occursIn marker.toList ("ITH_MAIN".toList ++ rest) = occursIn marker.toList rest := by
    intro marker hmem rest
    obtain rfl | rfl | rfl := by simpa [Framework.profile, Profile.required] using hmem
    · rfl
    · rfl
    · rfl
  refine List.filterMap_congr fun marker hmem => ?_
  obtain ⟨hne, hchain, hother, hlast⟩ := hmarker marker hmem
  rw [occursIn_withMain hne hchain (hnew marker hmem) hother hlast hafter]

/-- **What the check says about the symbol.**  It is reported missing exactly if it stands nowhere as
a text, so a template that passes contains it as a text.  As a word of its own it need not: wherever
no word goes on behind the symbol, the longer symbol of the other style may stand in its place, and
the same is reported. -/
theorem implement_judged (t : Template) (hframework : t.framework = .doctest)
    (hstyle : t.style = .customMain) :
    (.missingMarker "DOCTEST_CONFIG_IMPLEMENT" ∈ t.problems ↔
      Text.isBlankText t.content.toList = false ∧
        ¬ ∃ before after, t.content.toList = before ++ (implement ++ after)) ∧
    (t.problems = [] → ∃ before after, t.content.toList = before ++ (implement ++ after)) ∧
    ∀ before after, t.content.toList = before ++ (implement ++ after) →
      (∀ c ∈ after.head?, isWord c = false) →
        (t.withContent (before ++ (implement ++ (withMain ++ after)))).problems = t.problems := by
  have hmissing : .missingMarker "DOCTEST_CONFIG_IMPLEMENT" ∈ t.problems ↔
      Text.isBlankText t.content.toList = false ∧
        ¬ ∃ before after, t.content.toList = before ++ (implement ++ after) := by
    have hrequired : "DOCTEST_CONFIG_IMPLEMENT" ∈ t.framework.profile.required t.style := by
      rw [hframework, hstyle]
      decide
    rw [mem_problems_missingMarker, ← Bool.not_eq_true (occursIn _ _), Text.occursIn_iff]
    simp only [hrequired, true_and, List.append_assoc]
    rfl
  refine ⟨hmissing, fun h => ?_, fun before after hcontent hafter => ?_⟩
  · have hblank : Text.isBlankText t.content.toList = false := by
      by_contra hblank
      rw [problems, if_pos (by simpa using hblank)] at h
      cases h
    rw [h] at hmissing
    exact not_not.1 fun hnone => List.not_mem_nil (hmissing.2 ⟨hblank, hnone⟩)
  · have hlonger := lengthens_withMain before after
    have hblank : ∀ s, Text.isBlankText (before ++ (implement ++ s)) = false := by
      have hsymbol : implement.all Text.isBlank = false := by decide
      intro s
      rw [Text.isBlankText, List.all_append, List.all_append, hsymbol, Bool.false_and, Bool.and_false]
    have hheader : 'T' ∉ "include".toList ++ "doctest/doctest.h".toList := by decide
    have hinclude := goesOnWith_withMain.includes hheader hlonger
    have hmains := goesOnWith_withMain.mainCount (by decide) hlonger
    have hbrackets := goesOnWith_withMain.imbalance? hlonger
    rw [problems, problems, hcontent, withContent, String.toList_ofList, hblank, hblank, hframework,
      hstyle]
    simp only [Bool.false_eq_true, if_false, contentProblems, includeProblems, mainProblems,
      bracketProblems, markerProblems_withMain hafter, hmains, hbrackets]
    rw [show Framework.doctest.profile.header = "doctest/doctest.h" from rfl, hinclude]

/-- What stands behind the symbol in a template with a test and a `main` of its own. -/
def definedRest : List Char :=
  "\n#include \"doctest/doctest.h\"\n".toList ++
    "TEST_CASE(\"a\") \x7b\x7d\nint main() \x7b doctest::Context c; \x7d\n".toList

/-- A template for doctest that defines a symbol. -/
def defining (symbol : List Char) : Template :=
  { framework := .doctest, style := .customMain
    content := String.ofList ("#define ".toList ++ (symbol ++ definedRest)) }

theorem toList_defining (symbol : List Char) :
    (defining symbol).content.toList = "#define ".toList ++ (symbol ++ definedRest) :=
  String.toList_ofList

/-- Nothing is reported with the shorter symbol, so nothing is with the longer one. -/
theorem implement_judged_defining :
    (defining implement).framework = .doctest ∧ (defining implement).style = .customMain ∧
      (defining implement).problems = [] ∧
      ((defining implement).withContent
        ("#define ".toList ++ (implement ++ (withMain ++ definedRest)))).problems = [] := by
  have hnone : (defining implement).problems = [] := by
    rw [problems, toList_defining]
    decide +kernel
  have hafter : ∀ c ∈ definedRest.head?, isWord c = false := by
    intro c hc
    obtain rfl : '\n' = c := Option.some.inj hc
    rfl
  have hsame := (implement_judged (defining implement) rfl rfl).2.2 _ _ (toList_defining implement)
    hafter
  exact ⟨rfl, rfl, hnone, hsame.trans hnone⟩

/-- **A template that has the longer symbol only** passes, and the symbol stands nowhere in it as a
word of its own. -/
theorem second_main_accepted :
    (defining (implement ++ withMain)).problems = [] ∧
      ¬ StandsAlone implement (defining (implement ++ withMain)).content.toList := by
  rw [problems, toList_defining]
  refine ⟨by decide +kernel, ?_⟩
  rintro ⟨before, after, hcontent, -, hafter⟩
  -- wherever the symbol stands, an underscore follows it
  have hall : ∀ rest ∈ ("#define ".toList ++ (implement ++ withMain ++ definedRest)).tails,
      implement <+: rest → (rest.drop implement.length).head? = some '_' := by
    decide +kernel
  have htail : implement ++ after ∈
      ("#define ".toList ++ (implement ++ withMain ++ definedRest)).tails := by
    rw [hcontent, List.mem_tails]
    exact List.suffix_append before _
  have hunderscore := hall _ htail (List.prefix_append implement after)
  rw [List.drop_left] at hunderscore
  exact absurd (hafter '_' hunderscore) (by decide)

end Template

end EntryTemplates
