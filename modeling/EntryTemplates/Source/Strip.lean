/-
**Source text without its comments and literals.**

Four kinds of lexemes are taken out of a C++ text: line comments, block comments, string literals
and character literals.  A literal runs to the first quote of its kind that no backslash escapes
and must not contain a bare line feed; an opener without its end is an ordinary character.  What
is taken out leaves its line feeds behind, so that no later character changes its line.

Main definitions:

* `EntryTemplates.Source.lexeme?` — the comment or literal at the start of a text, with what
  follows it;
* `EntryTemplates.Source.strip` — the text without comments and literals.

Main results:

* `EntryTemplates.Source.lexeme?_append` — a lexeme and what follows it make up the text;
* `EntryTemplates.Source.strip_of_lexeme`, `strip_of_plain` — the two steps of stripping.
-/

import EntryTemplates.Text.Lines

set_option relaxedAutoImplicit false
set_option autoImplicit false

namespace EntryTemplates.Source

open EntryTemplates.Text

/-! ### Lexemes -/

/-- A first part and what follows it, with `front` put before the first part. -/
def extend (front : List Char) (split : Option (List Char × List Char)) :
    Option (List Char × List Char) :=
  split.map fun (body, after) => (front ++ body, after)

theorem extend_eq_some {front lexeme after : List Char} {split : Option (List Char × List Char)}
    (h : extend front split = some (lexeme, after)) :
    ∃ body, split = some (body, after) ∧ lexeme = front ++ body := by
  obtain ⟨⟨body, rest⟩, hs, heq⟩ := Option.map_eq_some_iff.1 h
  simp only [Prod.mk.injEq] at heq
  exact ⟨body, by rw [hs, heq.2], heq.1.symm⟩

/-- What stands up to the end of a literal that `quote` has opened, the closing quote included,
and what follows it. -/
def closeQuote? (quote : Char) : List Char → Option (List Char × List Char)
  | [] => none
  | '\\' :: c :: rest => extend ['\\', c] (closeQuote? quote rest)
  | c :: rest =>
      if c = quote then some ([c], rest)
      else if c = '\n' ∨ c = '\\' then none
      else extend [c] (closeQuote? quote rest)

/-- What stands up to the end of a block comment, the end included, and what follows it. -/
def closeBlock? : List Char → Option (List Char × List Char)
  | [] => none
  | '*' :: '/' :: rest => some (['*', '/'], rest)
  | c :: rest => extend [c] (closeBlock? rest)

/-- The comment or literal that a text begins with, and what follows it. -/
def lexeme? : List Char → Option (List Char × List Char)
  | '/' :: '/' :: rest =>
      some ('/' :: '/' :: rest.takeWhile (· ≠ '\n'), rest.dropWhile (· ≠ '\n'))
  | '/' :: '*' :: rest => extend ['/', '*'] (closeBlock? rest)
  | '"' :: rest => extend ['"'] (closeQuote? '"' rest)
  | '\'' :: rest => extend ['\''] (closeQuote? '\'' rest)
  | _ => none

theorem closeQuote?_append {quote : Char} {s body after : List Char}
    (h : closeQuote? quote s = some (body, after)) : s = body ++ after := by
  fun_induction closeQuote? quote s generalizing body after with
  | case1 => simp at h
  | case2 c rest ih =>
      obtain ⟨b, hb, rfl⟩ := extend_eq_some h
      simp [ih hb]
  | case3 c rest =>
      simp only [Option.some.injEq, Prod.mk.injEq] at h
      simp [← h.1, ← h.2]
  | case4 => simp at h
  | case5 c rest _ _ _ ih =>
      obtain ⟨b, hb, rfl⟩ := extend_eq_some h
      simp [ih hb]

theorem closeBlock?_append {s body after : List Char}
    (h : closeBlock? s = some (body, after)) : s = body ++ after := by
  fun_induction closeBlock? s generalizing body after with
  | case1 => simp at h
  | case2 rest =>
      simp only [Option.some.injEq, Prod.mk.injEq] at h
      simp [← h.1, ← h.2]
  | case3 c rest _ ih =>
      obtain ⟨b, hb, rfl⟩ := extend_eq_some h
      simp [ih hb]

/-- **A lexeme and what follows it make up the text.** -/
theorem lexeme?_append {s lexeme after : List Char} (h : lexeme? s = some (lexeme, after)) :
    s = lexeme ++ after := by
  unfold lexeme? at h
  split at h
  · simp only [Option.some.injEq, Prod.mk.injEq] at h
    simp [← h.1, ← h.2, List.takeWhile_append_dropWhile]
  · obtain ⟨b, hb, rfl⟩ := extend_eq_some h
    simp [closeBlock?_append hb]
  · obtain ⟨b, hb, rfl⟩ := extend_eq_some h
    simp [closeQuote?_append hb]
  · obtain ⟨b, hb, rfl⟩ := extend_eq_some h
    simp [closeQuote?_append hb]
  · simp at h

/-- A lexeme is never empty. -/
theorem lexeme?_ne_nil {s lexeme after : List Char} (h : lexeme? s = some (lexeme, after)) :
    lexeme ≠ [] := by
  unfold lexeme? at h
  split at h
  · simp only [Option.some.injEq, Prod.mk.injEq] at h
    simp [← h.1]
  · obtain ⟨b, _, rfl⟩ := extend_eq_some h
    simp
  · obtain ⟨b, _, rfl⟩ := extend_eq_some h
    simp
  · obtain ⟨b, _, rfl⟩ := extend_eq_some h
    simp
  · simp at h

/-- What follows a lexeme is shorter than the text. -/
theorem lexeme?_length {s lexeme after : List Char} (h : lexeme? s = some (lexeme, after)) :
    after.length < s.length := by
  have hne := List.length_pos_iff.2 (lexeme?_ne_nil h)
  rw [lexeme?_append h, List.length_append]
  omega

/-! ### Stripping -/

/-- **The text without its comments and literals**; each of them leaves its line feeds behind. -/
def strip : List Char → List Char
  | [] => []
  | c :: rest =>
      match _h : lexeme? (c :: rest) with
      | some (lexeme, after) => lineFeeds lexeme ++ strip after
      | none => c :: strip rest
termination_by s => s.length
decreasing_by
  · exact lexeme?_length ‹_›
  · simp

@[simp] theorem strip_nil : strip [] = [] := by rw [strip]

theorem strip_of_lexeme {s lexeme after : List Char} (h : lexeme? s = some (lexeme, after)) :
    strip s = lineFeeds lexeme ++ strip after := by
  cases s with
  | nil => simp [lexeme?] at h
  | cons c rest =>
      rw [strip]
      split
      · rename_i l a heq
        rw [h] at heq
        simp only [Option.some.injEq, Prod.mk.injEq] at heq
        rw [heq.1, heq.2]
      · rename_i heq
        simp [h] at heq

theorem strip_of_plain {c : Char} {rest : List Char} (h : lexeme? (c :: rest) = none) :
    strip (c :: rest) = c :: strip rest := by
  rw [strip]
  split
  · rename_i heq
    simp [h] at heq
  · rfl

end EntryTemplates.Source
