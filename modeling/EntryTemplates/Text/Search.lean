/-
**Looking for a text inside another one.**

Main definitions:

* `EntryTemplates.Text.occursIn` — whether a text occurs somewhere in another;
* `EntryTemplates.Text.dropPrefix?` — what follows a given beginning;
* `EntryTemplates.Text.splitAtChar` — the pieces between the occurrences of a character.
-/

set_option relaxedAutoImplicit false
set_option autoImplicit false

namespace EntryTemplates.Text

/-- What follows `start` in a text that begins with it. -/
def dropPrefix? : List Char → List Char → Option (List Char)
  | [], s => some s
  | _ :: _, [] => none
  | a :: start, c :: s => if a = c then dropPrefix? start s else none

theorem dropPrefix?_append {start s rest : List Char} (h : dropPrefix? start s = some rest) :
    s = start ++ rest := by
  fun_induction dropPrefix? start s with
  | case1 => simpa using h
  | case2 => simp at h
  | case3 start c s ih => simp [ih h]
  | case4 => simp at h

/-- Whether `needle` occurs somewhere in a text. -/
def occursIn (needle : List Char) : List Char → Bool
  | [] => needle.isEmpty
  | c :: rest => needle.isPrefixOf (c :: rest) || occursIn needle rest

theorem occursIn_iff (needle s : List Char) :
    occursIn needle s = true ↔ ∃ before after, s = before ++ needle ++ after := by
  induction s with
  | nil =>
      simp only [occursIn, List.isEmpty_iff]
      constructor
      · rintro rfl
        exact ⟨[], [], rfl⟩
      · rintro ⟨before, after, h⟩
        have := congrArg List.length h
        simp only [List.length_nil, List.length_append] at this
        exact List.length_eq_zero_iff.1 (by omega)
  | cons c rest ih =>
      rw [occursIn, Bool.or_eq_true, List.isPrefixOf_iff_prefix, ih]
      constructor
      · rintro (⟨after, h⟩ | ⟨before, after, h⟩)
        · exact ⟨[], after, by simpa using h.symm⟩
        · exact ⟨c :: before, after, by simp [h]⟩
      · rintro ⟨before, after, h⟩
        cases before with
        | nil => exact Or.inl ⟨after, by simpa using h.symm⟩
        | cons b before =>
            simp only [List.cons_append, List.append_assoc, List.cons.injEq] at h
            exact Or.inr ⟨before, after, by simpa using h.2⟩

/-- The pieces of a text between the occurrences of `mark`, the last one begun with `begun` (in
reverse). -/
def splitAtCharFrom (mark : Char) (begun : List Char) : List Char → List (List Char)
  | [] => [begun.reverse]
  | c :: rest =>
      if c = mark then begun.reverse :: splitAtCharFrom mark [] rest
      else splitAtCharFrom mark (c :: begun) rest

/-- The pieces of a text between the occurrences of `mark`; there is always at least one. -/
def splitAtChar (mark : Char) (s : List Char) : List (List Char) := splitAtCharFrom mark [] s

/-- The pieces put together again, with `mark` between them. -/
def joinWith (mark : List Char) : List (List Char) → List Char
  | [] => []
  | [piece] => piece
  | piece :: next :: pieces => piece ++ mark ++ joinWith mark (next :: pieces)

/-- A text with every occurrence of a character replaced by `new`. -/
def replaceChar (old : Char) (new : List Char) (s : List Char) : List Char :=
  s.flatMap fun c => if c = old then new else [c]

end EntryTemplates.Text
