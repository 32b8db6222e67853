/-
**Which include directives count.**

The check of a template looks for the directive at the beginning of a line of its content, and does
not look for comments.  A line comment in front of a directive moves it away from the beginning of
its line, and so does a block comment that has begun on the same line.  A block comment that has
begun on an earlier line does not.

Main definitions:

* `EntryTemplates.Source.IsDirective` — an include directive, from its hash on;
* `EntryTemplates.Source.LeadsLine` — nothing but blanks and tabs stand before a place in its line;
* `EntryTemplates.Source.InComment`, `EntryTemplates.Source.InOlderComment` — places in comments, and
  in comments that have begun on an earlier line.

Main results:

* `EntryTemplates.Source.includes_iff` — what the check looks for;
* `EntryTemplates.Source.LeadsLine.inOlderComment` — **a directive that leads its line stands in no
  comment but in one that has begun on an earlier line**;
* `EntryTemplates.Template.include_judged` — **which include directives count**;
* `EntryTemplates.Template.commented_include_accepted` — a directive in a comment of several lines.
-/

import EntryTemplates.Proofs.Source.Lexemes
import EntryTemplates.Template
import Mathlib.Data.List.Basic

set_option relaxedAutoImplicit false
set_option autoImplicit false

namespace EntryTemplates.Source

open EntryTemplates.Text

/-! ### Directives at the beginning of a line -/

/-- An include directive for the header, from its hash on. -/
def IsDirective (header s : List Char) : Prop := s.head? = some '#' ∧ includesAt header s = true

instance (header s : List Char) : Decidable (IsDirective header s) :=
  inferInstanceAs (Decidable (_ ∧ _))

/-- Nothing but blanks and tabs stand at the end of a text, behind its last line feed. -/
def LeadsLine (before : List Char) : Prop :=
  ∃ earlier blanks, before = earlier ++ blanks ∧ (∀ c ∈ blanks, isInlineBlank c = true) ∧
    (earlier = [] ∨ ∃ lines, earlier = lines ++ ['\n'])

variable {header content before after : List Char}

theorem skipInline_hash (s : List Char) : skipInline ('#' :: s) = '#' :: s := rfl

theorem skipInline_append {blanks : List Char} (h : ∀ c ∈ blanks, isInlineBlank c = true)
    (s : List Char) : skipInline (blanks ++ s) = skipInline s := by
  rw [skipInline, List.dropWhile_append_of_pos h]
  rfl

/-- A line begins with a directive, or with blanks and tabs before it. -/
theorem includesAt_iff {s : List Char} :
    includesAt header s = true ↔ ∃ blanks rest, s = blanks ++ rest ∧
      (∀ c ∈ blanks, isInlineBlank c = true) ∧ IsDirective header rest := by
  constructor
  · intro h
    refine ⟨s.takeWhile isInlineBlank, skipInline s, List.takeWhile_append_dropWhile.symm,
      fun c hc => List.mem_takeWhile_imp hc, ?_⟩
    rw [includesAt] at h
    split at h
    · rename_i rest hhash
      refine ⟨by rw [hhash]; rfl, ?_⟩
      rw [hhash, includesAt, skipInline_hash]
      exact h
    · cases h
  · rintro ⟨blanks, rest, rfl, hblanks, -, hdirective⟩
    rw [includesAt, skipInline_append hblanks]
    exact hdirective

theorem afterLineFeed_iff {holds : List Char → Bool} {s : List Char} :
    afterLineFeed holds s = true ↔ ∃ lines rest, s = lines ++ '\n' :: rest ∧ holds rest = true := by
  induction s with
  | nil => simp [afterLineFeed]
  | cons c s ih =>
      rw [afterLineFeed, Bool.or_eq_true, ih]
      constructor
      · rintro (h | ⟨lines, rest, rfl, hrest⟩)
        · obtain ⟨hc, hs⟩ := Bool.and_eq_true_iff.1 h
          exact ⟨[], s, by rw [of_decide_eq_true hc]; rfl, hs⟩
        · exact ⟨c :: lines, rest, rfl, hrest⟩
      · rintro ⟨lines, rest, heq, hrest⟩
        cases lines with
        | nil =>
            obtain ⟨rfl, rfl⟩ := List.cons.inj heq
            exact Or.inl (by simpa using hrest)
        | cons d lines =>
            obtain ⟨-, rfl⟩ := List.cons.inj heq
            exact Or.inr ⟨lines, rest, rfl, hrest⟩

/-- **What the check looks for**: a directive that leads its line. -/
theorem includes_iff : includes header content = true ↔
    ∃ before after, content = before ++ after ∧ IsDirective header after ∧ LeadsLine before := by
  rw [includes, Bool.or_eq_true, afterLineFeed_iff]
  constructor
  · rintro (h | ⟨lines, rest, rfl, h⟩)
    · obtain ⟨blanks, rest, rfl, hblanks, hdirective⟩ := includesAt_iff.1 h
      exact ⟨blanks, rest, rfl, hdirective, [], blanks, rfl, hblanks, Or.inl rfl⟩
    · obtain ⟨blanks, rest, rfl, hblanks, hdirective⟩ := includesAt_iff.1 h
      exact ⟨lines ++ ['\n'] ++ blanks, rest, by simp, hdirective, lines ++ ['\n'], blanks, rfl,
        hblanks, Or.inr ⟨lines, rfl⟩⟩
  · rintro ⟨before, after, rfl, hdirective, earlier, blanks, rfl, hblanks, hearlier⟩
    have hline : includesAt header (blanks ++ after) = true :=
      includesAt_iff.2 ⟨blanks, after, rfl, hblanks, hdirective⟩
    obtain rfl | ⟨lines, rfl⟩ := hearlier
    · exact Or.inl hline
    · exact Or.inr ⟨lines, blanks ++ after, by simp, hline⟩

/-! ### Directives in comments -/

/-- A place in a comment. -/
def InComment (content after : List Char) : Prop :=
  ∃ front back, StandsIn content front back after ∧ IsComment (front ++ back)

/-- A place in a comment that has begun on an earlier line. -/
def InOlderComment (content after : List Char) : Prop :=
  ∃ front back, StandsIn content front back after ∧ IsComment (front ++ back) ∧ '\n' ∈ front

/-- Where a line is led, what has begun with a character that is no blank has begun on an earlier
line. -/
theorem LeadsLine.lineFeed_mem (h : LeadsLine before) {earlier front : List Char} {c : Char}
    (hbefore : before = earlier ++ c :: front) (hblank : isInlineBlank c = false)
    (hfeed : c ≠ '\n') : '\n' ∈ front := by
  obtain ⟨lines, blanks, rfl, hblanks, hlines⟩ := h
  have hnot : c ∉ blanks := fun hmem => by simp [hblanks c hmem] at hblank
  rcases List.append_eq_append_iff.1 hbefore with ⟨shared, -, hshared⟩ | ⟨shared, hshared, hfront⟩
  · -- the character would be one of the blanks
    exact absurd (by rw [hshared]; simp) hnot
  · cases shared with
    | nil =>
        rw [List.nil_append] at hfront
        exact absurd (by rw [← hfront]; simp) hnot
    | cons d shared =>
        obtain ⟨rfl, rfl⟩ := List.cons.inj hfront
        -- the lines before end with a line feed, which is not the character itself
        have hlast : (c :: shared).getLast? = some '\n' := by
          obtain rfl | ⟨more, rfl⟩ := hlines
          · exact absurd hshared (by simp)
          · have hends := congrArg List.getLast? hshared
            rw [List.getLast?_append, List.getLast?_append] at hends
            simpa using hends.symm
        have hmem := (List.mem_cons.1 (List.mem_of_getLast? hlast)).resolve_left (Ne.symm hfeed)
        exact List.mem_append_left _ hmem

/-- **A directive that leads its line stands in no comment** but in one that has begun on an earlier
line. -/
theorem LeadsLine.inOlderComment (h : LeadsLine before) (hcontent : content = before ++ after)
    (hcomment : InComment content after) : InOlderComment content after := by
  obtain ⟨front, back, hstands, hisComment⟩ := hcomment
  refine ⟨front, back, hstands, hisComment, ?_⟩
  obtain ⟨hbegun, -, rest, hread, rfl⟩ := hstands
  obtain ⟨hcomplete, -, earlier, hearlier⟩ := isComplete_of_mem_lexemes hread
  obtain ⟨c, front, rfl⟩ := List.exists_cons_of_ne_nil hbegun
  obtain ⟨d, more, hfirst, hd⟩ := hcomplete.exists_cons
  obtain ⟨rfl, -⟩ := List.cons.inj hfirst
  have hbefore : before = earlier ++ c :: front := by
    rw [hcontent] at hearlier
    exact List.append_cancel_right (by simpa using hearlier)
  have hopener : isInlineBlank c = false ∧ c ≠ '\n' := by
    simp only [List.mem_cons, List.not_mem_nil, or_false] at hd
    obtain rfl | rfl | rfl := hd <;> decide
  exact List.mem_cons_of_mem _ (h.lineFeed_mem hbefore hopener.1 hopener.2)

end EntryTemplates.Source

namespace EntryTemplates.Template

open Source (InComment InOlderComment IsDirective LeadsLine)

/-- The header that a template has to include. -/
def header (t : Template) : List Char := t.framework.profile.header.toList

/-- The report that a template does not include its header. -/
def missingInclude (t : Template) : Problem :=
  .missingInclude t.framework.profile.displayName t.framework.profile.header

theorem mem_problems_missingInclude {t : Template} :
    t.missingInclude ∈ t.problems ↔
      Text.isBlankText t.content.toList = false ∧
        Source.includes t.header t.content.toList = false := by
  rw [problems]
  cases hblank : Text.isBlankText t.content.toList with
  | true => simp [missingInclude]
  | false =>
      have hmarkers : t.missingInclude ∉
          markerProblems t.framework.profile t.style t.content.toList := by
        intro h
        obtain ⟨marker, -, hmarker⟩ := List.mem_filterMap.1 h
        split at hmarker <;> simp [missingInclude] at hmarker
      have hmain : t.missingInclude ∉ mainProblems t.style t.content.toList := by
        rw [mainProblems]
        split <;> simp [missingInclude]
      have hbrackets : t.missingInclude ∉ bracketProblems t.content.toList := by
        rw [bracketProblems]
        split <;> simp [missingInclude]
      simp only [Bool.false_eq_true, if_false, contentProblems, List.mem_append, hmarkers, hmain,
        hbrackets, or_false, true_and]
      rw [includeProblems, header]
      cases Source.includes t.framework.profile.header.toList t.content.toList <;>
        simp [missingInclude]

/-- **Which include directives count.**  It is reported that there is none exactly if none leads its
line.  So a template that passes has a directive for its header which stands in no comment but in one
that has begun on an earlier line, and a template with no directives but in comments that have begun
on the same line is reported. -/
theorem include_judged (t : Template) :
    (t.missingInclude ∈ t.problems ↔ Text.isBlankText t.content.toList = false ∧
      ∀ before after, t.content.toList = before ++ after → IsDirective t.header after →
        ¬ LeadsLine before) ∧
    (t.problems = [] → ∃ before after, t.content.toList = before ++ after ∧
      IsDirective t.header after ∧
        (InComment t.content.toList after → InOlderComment t.content.toList after)) ∧
    (Text.isBlankText t.content.toList = false →
      (∀ before after, t.content.toList = before ++ after → IsDirective t.header after →
        InComment t.content.toList after ∧ ¬ InOlderComment t.content.toList after) →
      t.missingInclude ∈ t.problems) := by
  have hreported : t.missingInclude ∈ t.problems ↔
      Text.isBlankText t.content.toList = false ∧
        ∀ before after, t.content.toList = before ++ after → IsDirective t.header after →
          ¬ LeadsLine before := by
    rw [mem_problems_missingInclude, ← Bool.not_eq_true (Source.includes _ _), Source.includes_iff]
    simp only [not_exists, not_and]
  refine ⟨hreported, fun h => ?_, fun hblank hcomments => ?_⟩
  · have hnot : t.missingInclude ∉ t.problems := by
      rw [h]
      exact List.not_mem_nil
    have hblank : Text.isBlankText t.content.toList = false := by
      by_contra hblank
      rw [problems, if_pos (by simpa using hblank)] at h
      cases h
    rw [mem_problems_missingInclude, not_and, Bool.not_eq_false] at hnot
    obtain ⟨before, after, hcontent, hdirective, hleads⟩ := Source.includes_iff.1 (hnot hblank)
    exact ⟨before, after, hcontent, hdirective, hleads.inOlderComment hcontent⟩
  · refine hreported.2 ⟨hblank, fun before after hcontent hdirective hleads => ?_⟩
    obtain ⟨hcomment, holder⟩ := hcomments before after hcontent hdirective
    exact holder (hleads.inOlderComment hcontent hcomment)

/-- A template for googletest. -/
def testOf (content : String) : Template :=
  { framework := .googletest, style := .autoMain, content }

/-- A directive behind a line comment counts. -/
theorem include_judged_direct :
    (testOf "// a\n#include <gtest/gtest.h>\nTEST(A, B) {}\n").problems = [] ∧
      ∃ before after, (testOf "// a\n#include <gtest/gtest.h>\nTEST(A, B) {}\n").content.toList =
        before ++ after ∧
      IsDirective "gtest/gtest.h".toList after ∧
        (InComment (testOf "// a\n#include <gtest/gtest.h>\nTEST(A, B) {}\n").content.toList after →
          InOlderComment (testOf "// a\n#include <gtest/gtest.h>\nTEST(A, B) {}\n").content.toList
            after) := by
  have h : (testOf "// a\n#include <gtest/gtest.h>\nTEST(A, B) {}\n").problems = [] := by
    decide +kernel
  exact ⟨h, (include_judged _).2.1 h⟩

/-- A comment over several lines with a directive in it, from its hash on. -/
def commentRest : List Char := "#include <gtest/gtest.h>\n*/".toList

/-- What follows the comment. -/
def testLines : List Char := "\nTEST(A, B) \x7b\x7d\n".toList

/-- The comment, and a test behind it. -/
def commented : Template :=
  testOf "/*\n#include <gtest/gtest.h>\n*/\nTEST(A, B) \x7b\x7d\n"

/-- **A directive in a comment of several lines** is the only one of a template that passes. -/
theorem commented_include_accepted :
    commented.problems = [] ∧
      ∀ before after, commented.content.toList = before ++ after →
        IsDirective commented.header after → InComment commented.content.toList after := by
  refine ⟨by decide +kernel, fun before after hcontent ⟨hhash, _⟩ => ?_⟩
  have hread : Source.lexeme? commented.content.toList =
      some (['/', '*', '\n'] ++ commentRest, testLines) := by decide +kernel
  have hwhole : commented.content.toList =
      ['/', '*', '\n'] ++ '#' :: (commentRest ++ testLines).tail := by decide +kernel
  have honce : '#' ∉ ['/', '*', '\n'] ∧ '#' ∉ (commentRest ++ testLines).tail := by decide +kernel
  -- there is one hash only
  obtain ⟨rest, rfl⟩ := List.head?_eq_some_iff.1 hhash
  obtain ⟨-, -, hrest⟩ := (List.append_cons_inj_of_notMem honce.1 honce.2).1
    (hwhole.symm.trans hcontent)
  refine ⟨['/', '*', '\n'], commentRest, ⟨by simp, by decide +kernel, testLines, ?_, ?_⟩, ?_⟩
  · rw [Source.lexemes_of_lexeme hread]
    exact List.mem_cons_self
  · rw [← hrest]
    decide +kernel
  · exact Or.inr ⟨_, rfl⟩

end EntryTemplates.Template
