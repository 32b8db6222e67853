/-
**Definitions of `main` in source text.**

A definition reads `int` or `auto` at the beginning of a word, white space, `main`, any white
space and an opening parenthesis.  Definitions are counted from left to right without overlap in
the text without comments and literals.

Main definitions:

* `EntryTemplates.Source.definition?` — what follows the definition at the start of a text;
* `EntryTemplates.Source.countDefinitions` — the definitions in a text as it stands;
* `EntryTemplates.Source.mainCount` — the definitions outside comments and literals.
-/

import EntryTemplates.Source.Strip
import EntryTemplates.Text.Blank
import EntryTemplates.Text.Word

set_option relaxedAutoImplicit false
set_option autoImplicit false

namespace EntryTemplates.Source

open EntryTemplates.Text

/-- What follows the return type `int` or `auto`. -/
def returnType? : List Char → Option (List Char)
  | 'i' :: 'n' :: 't' :: rest => some rest
  | 'a' :: 'u' :: 't' :: 'o' :: rest => some rest
  | _ => none

/-- What follows `main`, white space and an opening parenthesis. -/
def mainName? : List Char → Option (List Char)
  | 'm' :: 'a' :: 'i' :: 'n' :: rest =>
      match rest.dropWhile isBlank with
      | '(' :: after => some after
      | _ => none
  | _ => none

/-- What follows the definition of `main` that a text begins with. -/
def definition? (s : List Char) : Option (List Char) :=
  match returnType? s with
  | some (c :: rest) => if isBlank c then mainName? (rest.dropWhile isBlank) else none
  | _ => none

theorem returnType?_length {s rest : List Char} (h : returnType? s = some rest) :
    rest.length < s.length := by
  unfold returnType? at h
  split at h
  · simp only [Option.some.injEq] at h
    subst h
    simp only [List.length_cons]
    omega
  · simp only [Option.some.injEq] at h
    subst h
    simp only [List.length_cons]
    omega
  · simp at h

theorem length_dropWhile_le (p : Char → Bool) (s : List Char) :
    (s.dropWhile p).length ≤ s.length := (List.dropWhile_suffix p).length_le

theorem mainName?_length {s rest : List Char} (h : mainName? s = some rest) :
    rest.length < s.length := by
  unfold mainName? at h
  split at h
  · rename_i r
    split at h
    · rename_i after heq
      simp only [Option.some.injEq] at h
      subst h
      have := length_dropWhile_le isBlank r
      rw [heq] at this
      simp only [List.length_cons] at this ⊢
      omega
    · simp at h
  · simp at h

/-- What follows a definition is shorter than the text. -/
theorem definition?_length {s rest : List Char} (h : definition? s = some rest) :
    rest.length < s.length := by
  unfold definition? at h
  split at h
  · rename_i c r heq
    split at h
    · have h₁ := returnType?_length heq
      have h₂ := mainName?_length h
      have h₃ := length_dropWhile_le isBlank r
      simp only [List.length_cons] at h₁
      omega
    · simp at h
  · simp at h

/-- Whether a word can begin after the character `before`, if there is one. -/
def wordCanBegin (before : Option Char) : Bool :=
  match before with
  | some c => !isWord c
  | none => true

/-- The definitions in a text that stands after the character `before`. -/
def countDefinitionsAfter (before : Option Char) : List Char → Nat
  | [] => 0
  | c :: rest =>
      if wordCanBegin before then
        match _h : definition? (c :: rest) with
        | some after => countDefinitionsAfter (some '(') after + 1
        | none => countDefinitionsAfter (some c) rest
      else countDefinitionsAfter (some c) rest
termination_by s => s.length
decreasing_by
  · exact definition?_length ‹_›
  · simp
  · simp

/-- The definitions of `main` in a text as it stands. -/
def countDefinitions (s : List Char) : Nat := countDefinitionsAfter none s

/-- **The definitions of `main` outside comments and literals.** -/
def mainCount (content : List Char) : Nat := countDefinitions (strip content)

end EntryTemplates.Source
