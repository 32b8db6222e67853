/-
**Stripping keeps every character on its line.**

What is left of a text without its comments and literals is a part of it, in the same order, and no
line feed is lost: a comment or literal leaves those that stand in it, an opener without its end is
read as a character, and any other character is kept.  A part that holds all line feeds of a text is
a part of it line by line, so nothing has moved to another line, whatever the lines are that
comments and literals reach over.

Main results:

* `EntryTemplates.Text.forall₂_splitAtChar` — a part of a text with all its marks is cut at them as
  the text is;
* `EntryTemplates.Source.ReadsUpTo.sublist` — what reading leaves is a part of what it passes;
* `EntryTemplates.Source.strip_keeps_lines` — **stripping keeps every character on its line**.
-/

import EntryTemplates.Proofs.Source.LineNumbers
import Mathlib.Data.List.Forall2

set_option relaxedAutoImplicit false
set_option autoImplicit false

namespace EntryTemplates

namespace Text

/-! ### Parts of a text, piece by piece -/

section Pieces

variable {mark : Char} {part text : List Char}

theorem splitAtCharFrom_of_ne {c : Char} (hc : c ≠ mark) (begun s : List Char) :
    splitAtCharFrom mark begun (c :: s) = splitAtCharFrom mark (c :: begun) s := by
  rw [splitAtCharFrom, if_neg hc]

theorem splitAtCharFrom_mark (begun s : List Char) :
    splitAtCharFrom mark begun (mark :: s) = begun.reverse :: splitAtCharFrom mark [] s := by
  rw [splitAtCharFrom, if_pos rfl]

/-- A part of a text with all its marks is cut at them as the text is, and what has begun its first
piece may be a part as well. -/
theorem forall₂_splitAtCharFrom (h : part.Sublist text) (hmarks : part.count mark = text.count mark)
    {begun begun' : List Char} (hbegun : begun.Sublist begun') :
    List.Forall₂ List.Sublist (splitAtCharFrom mark begun part)
      (splitAtCharFrom mark begun' text) := by
  induction h generalizing begun begun' with
  | slnil => exact .cons hbegun.reverse .nil
  | @cons part text c h ih =>
      -- a character that is left out is no mark: there would be one mark too few
      have hle : part.count mark ≤ text.count mark := h.count_le mark
      have hc : c ≠ mark := by
        rintro rfl
        rw [List.count_cons_self] at hmarks
        omega
      rw [List.count_cons_of_ne hc] at hmarks
      rw [splitAtCharFrom_of_ne hc]
      exact ih hmarks (hbegun.cons c)
  | @cons_cons part text c h ih =>
      have hrest : part.count mark = text.count mark := by
        rw [List.count_cons, List.count_cons] at hmarks
        omega
      by_cases hc : c = mark
      · subst hc
        rw [splitAtCharFrom_mark, splitAtCharFrom_mark]
        exact .cons hbegun.reverse (ih hrest (List.Sublist.refl []))
      · rw [splitAtCharFrom_of_ne hc, splitAtCharFrom_of_ne hc]
        exact ih hrest (hbegun.cons_cons c)

/-- **A part of a text with all its marks** is a part of it piece by piece. -/
theorem forall₂_splitAtChar (h : part.Sublist text)
    (hmarks : part.count mark = text.count mark) :
    List.Forall₂ List.Sublist (splitAtChar mark part) (splitAtChar mark text) :=
  forall₂_splitAtCharFrom h hmarks (List.Sublist.refl [])

end Pieces

end Text

namespace Source

open EntryTemplates.Text

/-! ### What reading leaves -/

/-- The line feeds of a text are a part of it. -/
theorem lineFeeds_sublist (s : List Char) : (lineFeeds s).Sublist s :=
  List.replicate_sublist_iff.2 (Nat.le_refl (s.count '\n'))

/-- **What reading leaves is a part of what it passes.** -/
theorem ReadsUpTo.sublist {content before left after : List Char}
    (h : ReadsUpTo content before left after) : left.Sublist before := by
  induction h with
  | here => exact List.Sublist.refl []
  | @lexeme _ t _ _ _ _ _ _ ih => exact (lineFeeds_sublist t).append ih
  | @plain c _ _ _ _ _ _ ih => exact ih.cons_cons c

/-- A text is read up to its end. -/
theorem readsUpTo_end (content : List Char) : ReadsUpTo content content (strip content) [] := by
  fun_induction strip content with
  | case1 => exact .here []
  | case2 c rest t after hread ih =>
      have h := ih.lexeme hread
      rwa [← lexeme?_append hread] at h
  | case3 c rest hread ih => exact ih.plain hread

/-- **Stripping keeps every character on its line.**  Line by line, and there are as many of them,
what is left is a part of the text; and each character that is left comes from a place in the text
before which there are as many line feeds. -/
theorem strip_keeps_lines (content : List Char) :
    List.Forall₂ List.Sublist (splitAtChar '\n' (strip content)) (splitAtChar '\n' content) ∧
    ∀ left c more, strip content = left ++ c :: more → c ≠ '\n' →
      ∃ before after, content = before ++ c :: after ∧ left.Sublist before ∧
        countLineFeeds left = countLineFeeds before ∧ strip (c :: after) = c :: more := by
  constructor
  · have hread : ReadsUpTo content content (strip content) [] := readsUpTo_end content
    exact forall₂_splitAtChar hread.sublist hread.countLineFeeds_eq
  · intro left c more hstrip hc
    obtain ⟨before, after, hread⟩ := exists_readsUpTo hc hstrip
    have hmore : strip (c :: after) = c :: more := by
      rw [hread.strip_eq] at hstrip
      exact List.append_cancel_left hstrip
    exact ⟨before, after, hread.eq_append, hread.sublist, hread.countLineFeeds_eq, hmore⟩

/-- A comment on two lines leaves the end of the first one, and an opener without its end stays. -/
example : strip ['a', '/', '*', '\n', '*', '/', 'b', '\n', '"', 'c'] =
    ['a', '\n', 'b', '\n', '"', 'c'] := by
  cbv

end Source

end EntryTemplates
