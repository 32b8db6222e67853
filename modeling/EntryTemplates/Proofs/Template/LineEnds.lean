/-
**The check of a template and its line ends.**

Whether the lines of a template end with a line feed, or with a carriage return and a line feed, is
of no account to the check, as long as no literal goes on behind the end of a line.

Main definitions:

* `EntryTemplates.Template.withReturns` — a template with carriage returns at its line ends;
* `EntryTemplates.Problem.ofCode` — the problems with definitions and brackets.

Main results:

* `EntryTemplates.Template.problems_withReturns` — **the check does not depend on line ends**;
* `EntryTemplates.Template.continued_literal_reported` — a literal over two lines.
-/

import EntryTemplates.Proofs.Source.LineEnds
import EntryTemplates.Template
import Mathlib.Data.List.Basic

set_option relaxedAutoImplicit false
set_option autoImplicit false

namespace EntryTemplates

open Source (AddsReturns IsComment NoLiteralSpansLines OnOneLine addsReturns_withReturns lexemes)

/-- The problems with the code of a template: with its definitions, and with its brackets. -/
def Problem.ofCode : Problem → Bool
  | .mainCount _ _ _ => true
  | .brackets _ => true
  | _ => false

/-- No header that a framework asks for contains a line end. -/
theorem Framework.onOneLine_header (f : Framework) : OnOneLine f.profile.header.toList := by
  cases f <;> decide

/-- No marker that a framework asks for contains a line end. -/
theorem Framework.onOneLine_marker (f : Framework) (s : Style) :
    ∀ marker ∈ f.profile.required s, OnOneLine marker.toList := by
  cases f <;> cases s <;> decide

namespace Template

/-- A template with a carriage return in front of each line feed of its content. -/
def withReturns (t : Template) : Template :=
  { t with content := String.ofList (Source.withReturns t.content.toList) }

@[simp] theorem withReturns_framework (t : Template) : t.withReturns.framework = t.framework := rfl

@[simp] theorem withReturns_style (t : Template) : t.withReturns.style = t.style := rfl

variable {s t : List Char}

theorem includeProblems_of_addsReturns (h : AddsReturns s t) (f : Framework) :
    includeProblems f.profile t = includeProblems f.profile s := by
  rw [includeProblems, includeProblems, h.includes f.onOneLine_header]

theorem markerProblems_of_addsReturns (h : AddsReturns s t) (f : Framework) (style : Style) :
    markerProblems f.profile style t = markerProblems f.profile style s := by
  refine List.filterMap_congr fun marker hmarker => ?_
  rw [h.occursIn (f.onOneLine_marker style marker hmarker)]

theorem mainProblems_of_addsReturns (h : AddsReturns (Source.strip s) (Source.strip t))
    (style : Style) : mainProblems style t = mainProblems style s := by
  rw [mainProblems, mainProblems, Source.mainCount, Source.mainCount, h.countDefinitions]

theorem bracketProblems_of_addsReturns (h : AddsReturns (Source.strip s) (Source.strip t)) :
    bracketProblems t = bracketProblems s := by
  rw [bracketProblems, bracketProblems, Source.imbalance?, Source.imbalance?, h.splitLines]

/-- The problems that are none of the code. -/
theorem filter_contentProblems (f : Framework) (style : Style) (content : List Char) :
    (contentProblems f style content).filter (!·.ofCode) =
      includeProblems f.profile content ++ markerProblems f.profile style content := by
  have hinclude : ∀ p ∈ includeProblems f.profile content, (!p.ofCode) = true := by
    intro p hp
    rw [includeProblems] at hp
    split at hp
    · cases hp
    · rw [List.mem_singleton.1 hp]
      rfl
  have hmarkers : ∀ p ∈ markerProblems f.profile style content, (!p.ofCode) = true := by
    intro p hp
    obtain ⟨marker, -, hmarker⟩ := List.mem_filterMap.1 hp
    split at hmarker
    · cases hmarker
    · rw [← Option.some.inj hmarker]
      rfl
  have hmain : (mainProblems style content).filter (!·.ofCode) = [] := by
    rw [mainProblems]
    split <;> rfl
  have hbrackets : (bracketProblems content).filter (!·.ofCode) = [] := by
    rw [bracketProblems]
    split <;> rfl
  rw [contentProblems, List.filter_append, List.filter_append, List.filter_append, hmain, hbrackets,
    List.filter_eq_self.2 hinclude, List.filter_eq_self.2 hmarkers, List.append_nil,
    List.append_nil]

/-- **The check does not depend on line ends.**  With a carriage return in front of each line feed
of a template that has none, the same is reported on its emptiness, its include directives and its
markers.  Where no literal holds a line feed, everything is reported as without them, with the same
numbers of lines.  A literal that holds one is none with carriage returns. -/
theorem problems_withReturns (t : Template) (hreturn : '\r' ∉ t.content.toList) :
    t.withReturns.problems.filter (!·.ofCode) = t.problems.filter (!·.ofCode) ∧
      (NoLiteralSpansLines t.content.toList → t.withReturns.problems = t.problems) ∧
      ∀ lexeme after, (lexeme, after) ∈ lexemes t.content.toList → '\n' ∈ lexeme →
        ¬ IsComment lexeme → Source.lexeme? (Source.withReturns (lexeme ++ after)) = none := by
  have h : AddsReturns t.content.toList t.withReturns.content.toList := by
    rw [withReturns, String.toList_ofList]
    exact addsReturns_withReturns hreturn
  have hliteral : ∀ lexeme after, (lexeme, after) ∈ lexemes t.content.toList → '\n' ∈ lexeme →
      ¬ IsComment lexeme → Source.lexeme? (Source.withReturns (lexeme ++ after)) = none := by
    intro lexeme after hmem hfeed hcomment
    obtain ⟨hcomplete, hfollow, -⟩ := Source.isComplete_of_mem_lexemes hmem
    have hread : Source.lexeme? (lexeme ++ after) = some (lexeme, after) :=
      Source.lexeme?_eq_some.2 ⟨rfl, hcomplete, hfollow⟩
    exact Source.lexeme?_withReturns_eq_none hread hfeed hcomment
  rw [problems, problems, h.isBlankText]
  cases Text.isBlankText t.content.toList with
  | true =>
      rw [if_pos rfl, if_pos rfl]
      exact ⟨rfl, fun _ => rfl, hliteral⟩
  | false =>
      have hinclude := includeProblems_of_addsReturns h t.framework
      have hmarkers := markerProblems_of_addsReturns h t.framework t.style
      refine ⟨?_, fun hspans => ?_, hliteral⟩
      · simp only [Bool.false_eq_true, if_false, filter_contentProblems, withReturns_framework,
          withReturns_style, hinclude, hmarkers]
      · have hstrip := h.strip hspans
        simp only [Bool.false_eq_true, if_false, contentProblems, withReturns_framework,
          withReturns_style, hinclude, hmarkers, mainProblems_of_addsReturns hstrip,
          bracketProblems_of_addsReturns hstrip]

/-- A comment over two lines, and a bracket on the last one. -/
def crowded : Template :=
  { framework := .doctest, style := .customMain, content := "/* a\n */ // b\nint main() ]\n" }

/-- A bracket is reported on the same line. -/
theorem problems_withReturns_crowded :
    '\r' ∉ crowded.content.toList ∧ NoLiteralSpansLines crowded.content.toList ∧
      crowded.withReturns.problems.filter (!·.ofCode) = crowded.problems.filter (!·.ofCode) ∧
      crowded.withReturns.problems = crowded.problems ∧
      Problem.brackets (.unexpected ']' 3) ∈ crowded.problems := by
  have hreturn : '\r' ∉ crowded.content.toList := by decide
  have hliterals : NoLiteralSpansLines crowded.content.toList := by decide +kernel
  obtain ⟨hfilter, hproblems, -⟩ := problems_withReturns crowded hreturn
  exact ⟨hreturn, hliterals, hfilter, hproblems hliterals, by decide +kernel⟩

/-- A literal that a backslash carries on to the next line, and an opening bracket there. -/
def continued : Template :=
  { framework := .googletest, style := .autoMain
    content := "#include \"gtest/gtest.h\"\nTEST(A, B) \x7b f(\"a\\\n(\"); \x7d\n" }

/-- **A literal over two lines** passes the check with line feeds.  With carriage returns it is
none, and the bracket in it is taken for code. -/
theorem continued_literal_reported :
    '\r' ∉ continued.content.toList ∧ continued.problems = [] ∧
      continued.withReturns.problems = [.brackets (.unexpected '\x7d' 3)] := by
  exact ⟨by decide, by decide +kernel, by decide +kernel⟩

end Template

end EntryTemplates
