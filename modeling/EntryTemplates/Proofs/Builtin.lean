/-
**The templates that come with the library are right.**

Main results:

* `EntryTemplates.Builtin.problems_template` — **nothing is wrong with a built-in template**.
-/

import EntryTemplates.Builtin
import Mathlib.Tactic.Common

set_option relaxedAutoImplicit false
set_option autoImplicit false

namespace EntryTemplates.Builtin

/-- The characters of some lines. -/
theorem toList_ofLines (lines : List String) :
    (Text.ofLines lines).toList = lines.flatMap fun line => line.toList ++ ['\n'] := by
  simp [Text.ofLines, List.flatMap_map]

/-- A content that is right is not empty. -/
theorem problems_eq_nil {t : Template} (hblank : Text.isBlankText t.content.toList = false)
    (h : Template.contentProblems t.framework t.style t.content.toList = []) : t.problems = [] := by
  rw [Template.problems, hblank]
  exact h

/-- What is checked of a content, as one truth value. -/
def isRight (f : Framework) (s : Style) (content : List Char) : Bool :=
  !Text.isBlankText content && Template.contentProblems f s content = []

-- the characters are made out first: taking them from a literal is what costs time in the kernel
theorem isRight_content (f : Framework) (s : Style) : isRight f s (content f s).toList = true := by
  cases f <;> cases s
  all_goals
    simp only [content, catch2Auto, catch2Custom, doctestAuto, doctestCustom, googletestAuto,
      googletestCustom, toList_ofLines, List.flatMap_cons, List.flatMap_nil]
    repeat rw [String.toList_ofList]
    decide +kernel

/-- **Nothing is wrong with a built-in template.** -/
theorem problems_template (f : Framework) (s : Style) : (template f s).problems = [] := by
  have h := isRight_content f s
  simp only [isRight, Bool.and_eq_true, Bool.not_eq_true', decide_eq_true_eq] at h
  exact problems_eq_nil h.1 h.2

end EntryTemplates.Builtin
