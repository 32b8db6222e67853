/-
**Texts that are alike.**

Two texts may differ in characters that nothing depends on: in their line ends, say, or in how a
long word goes on.  Whatever is looked for with other characters is then found in both or in
neither, and what follows it is alike again.

Main definitions:

* `EntryTemplates.Source.Alike` — a relation between texts that agree in all but some characters.

Main results:

* `EntryTemplates.Source.Alike.dropPrefix?` — a word is looked for in both;
* `EntryTemplates.Source.Alike.includesAt` — so is an include directive;
* `EntryTemplates.Source.Alike.definition?` — so is a definition of `main`;
* `EntryTemplates.Source.Alike.lexeme?_eq_none` — so is a comment or literal.
-/

import EntryTemplates.Proofs.Source.Definitions
import EntryTemplates.Proofs.Source.Stripping
import EntryTemplates.Source.Includes

set_option relaxedAutoImplicit false
set_option autoImplicit false

namespace EntryTemplates.Source

open EntryTemplates.Text

/-- The texts that `R` relates agree in all characters but the `unseen` ones, and in their white
space. -/
structure Alike (unseen : List Char) (R : List Char → List Char → Prop) : Prop where
  /-- What the first text begins with stands in the second one. -/
  left {s t : List Char} {c : Char} (hc : c ∉ unseen) (h : R (c :: s) t) :
    ∃ t', t = c :: t' ∧ R s t'
  /-- What the second text begins with stands in the first one. -/
  right {s t : List Char} {c : Char} (hc : c ∉ unseen) (h : R s (c :: t)) :
    ∃ s', s = c :: s' ∧ R s' t
  /-- Both texts begin with white space, or neither does. -/
  head {s t : List Char} (h : R s t) : s.head?.map isBlank = t.head?.map isBlank
  /-- White space is passed over in both. -/
  skipBlank {s t : List Char} (h : R s t) : R (s.dropWhile isBlank) (t.dropWhile isBlank)
  /-- Blanks and tabs are passed over in both. -/
  skipInline {s t : List Char} (h : R s t) : R (skipInline s) (skipInline t)

/-- Looking at the beginning of a text is looking for what follows it. -/
theorem isPrefixOf_eq (word s : List Char) : word.isPrefixOf s = (dropPrefix? word s).isSome := by
  fun_induction dropPrefix? word s with
  | case1 => rfl
  | case2 => rfl
  | case3 start c s ih => rw [← ih, List.isPrefixOf, beq_self_eq_true, Bool.true_and]
  | case4 a start c s hne => rw [List.isPrefixOf, beq_eq_false_iff_ne.2 hne]; rfl

theorem extend_eq_none {front : List Char} {split : Option (List Char × List Char)} :
    extend front split = none ↔ split = none := Option.map_eq_none_iff

/-- A bare line feed ends no literal. -/
theorem closeQuote?_lineFeed {quote : Char} (hquote : quote ∉ ['\\', '\r', '\n'])
    (rest : List Char) : closeQuote? quote ('\n' :: rest) = none := by
  rw [closeQuote?, if_neg fun heq => hquote (by simp [← heq]), if_pos (Or.inl rfl)]
  rintro c more h
  exact absurd h (by decide)

/-- A definition is a return type, white space and the name. -/
theorem definition?_eq (s : List Char) : definition? s = (returnType? s).bind fun rest =>
    if rest.head?.map isBlank = some true then mainName? (rest.dropWhile isBlank) else none := by
  rw [definition?.eq_def]
  cases returnType? s with
  | none => rfl
  | some rest =>
      cases rest with
      | nil => rfl
      | cons c rest =>
          simp only [Option.bind_some, List.head?_cons, Option.map_some, Option.some.injEq]
          split
          · rename_i hc
            rw [List.dropWhile_cons_of_pos hc]
          · rfl

theorem namesHeader_iff {header s : List Char} : namesHeader header s = true ↔
    ∃ c rest d more, s = c :: rest ∧ dropPrefix? header rest = some (d :: more) ∧
      (c = '<' ∨ c = '"') ∧ (d = '>' ∨ d = '"') := by
  cases s with
  | nil => simp [namesHeader]
  | cons c rest =>
      cases hnamed : dropPrefix? header rest with
      | none => simp [namesHeader, hnamed]
      | some named =>
          cases named with
          | nil => simp [namesHeader, hnamed]
          | cons d more => simp [namesHeader, hnamed]

namespace Alike

variable {unseen : List Char} {R : List Char → List Char → Prop} {s t word header : List Char}

theorem symm (hR : Alike unseen R) : Alike unseen fun s t => R t s where
  left hc h := hR.right hc h
  right hc h := hR.left hc h
  head h := (hR.head h).symm
  skipBlank h := hR.skipBlank h
  skipInline h := hR.skipInline h

/-- One of the seen characters begins both texts, or neither. -/
theorem head_cases (hR : Alike unseen R) (h : R s t) {heads : List Char}
    (hheads : ∀ c ∈ heads, c ∉ unseen) :
    (∃ c ∈ heads, ∃ s' t', s = c :: s' ∧ t = c :: t' ∧ R s' t') ∨
      (∀ c ∈ heads, ∀ s', s ≠ c :: s') ∧ ∀ c ∈ heads, ∀ t', t ≠ c :: t' := by
  by_cases hs : ∃ c ∈ heads, ∃ s', s = c :: s'
  · obtain ⟨c, hc, s', rfl⟩ := hs
    obtain ⟨t', rfl, hrest⟩ := hR.left (hheads c hc) h
    exact Or.inl ⟨c, hc, s', t', rfl, rfl, hrest⟩
  · refine Or.inr ⟨fun c hc s' heq => hs ⟨c, hc, s', heq⟩, fun c hc t' heq => hs ?_⟩
    obtain ⟨s', rfl, -⟩ := hR.right (hheads c hc) (heq ▸ h)
    exact ⟨c, hc, s', rfl⟩

theorem rel_cases {o o' : Option (List Char)} (h : Option.Rel R o o') :
    o = none ∧ o' = none ∨ ∃ r r', o = some r ∧ o' = some r' ∧ R r r' := by
  cases h with
  | none => exact Or.inl ⟨rfl, rfl⟩
  | some h => exact Or.inr ⟨_, _, rfl, rfl, h⟩

theorem dropPrefix?_of_ne {a : Char} (hs : ∀ s', s ≠ a :: s') :
    dropPrefix? (a :: word) s = none := by
  cases s with
  | nil => rfl
  | cons c s =>
      rw [Text.dropPrefix?, if_neg]
      rintro rfl
      exact hs s rfl

/-- **A word of seen characters is looked for in both texts.** -/
theorem dropPrefix? (hR : Alike unseen R) (hword : ∀ c ∈ word, c ∉ unseen) (h : R s t) :
    Option.Rel R (dropPrefix? word s) (dropPrefix? word t) := by
  induction word generalizing s t with
  | nil => exact .some h
  | cons a word ih =>
      obtain ⟨ha, hletters⟩ := List.forall_mem_cons.1 hword
      have hone : ∀ c ∈ [a], c ∉ unseen := by simpa using ha
      obtain ⟨c, hc, s, t, rfl, rfl, hrest⟩ | ⟨hs, ht⟩ := hR.head_cases h hone
      · obtain rfl := List.mem_singleton.1 hc
        simp only [Text.dropPrefix?, if_true]
        exact ih hletters hrest
      · rw [dropPrefix?_of_ne (hs a (by simp)), dropPrefix?_of_ne (ht a (by simp))]
        exact .none

theorem isPrefixOf (hR : Alike unseen R) (hword : ∀ c ∈ word, c ∉ unseen) (h : R s t) :
    word.isPrefixOf t = word.isPrefixOf s := by
  rw [isPrefixOf_eq, isPrefixOf_eq]
  obtain ⟨hs, ht⟩ | ⟨rest, rest', hs, ht, -⟩ := rel_cases (hR.dropPrefix? hword h)
  · rw [hs, ht]
  · rw [hs, ht]
    rfl

/-! ### Include directives -/

theorem namesHeader (hR : Alike unseen R) (hmarks : ∀ c ∈ ['<', '>', '"'], c ∉ unseen)
    (hheader : ∀ c ∈ header, c ∉ unseen) (h : R s t) :
    namesHeader header t = namesHeader header s := by
  have hforth : ∀ {R : List Char → List Char → Prop} {s t : List Char}, Alike unseen R → R s t →
      Source.namesHeader header s = true → Source.namesHeader header t = true := by
    intro R s t hR h hs
    obtain ⟨c, rest, d, more, rfl, hnamed, hc, hd⟩ := namesHeader_iff.1 hs
    have hopen : c ∉ unseen := hmarks c (by rcases hc with rfl | rfl <;> decide)
    have hclose : d ∉ unseen := hmarks d (by rcases hd with rfl | rfl <;> decide)
    obtain ⟨rest', rfl, hrest⟩ := hR.left hopen h
    obtain ⟨hnone, -⟩ | ⟨named, named', hsome, hnamed', hend⟩ :=
      rel_cases (hR.dropPrefix? hheader hrest)
    · rw [hnamed] at hnone
      cases hnone
    · obtain rfl := Option.some.inj (hnamed.symm.trans hsome)
      obtain ⟨more', rfl, -⟩ := hR.left hclose hend
      exact namesHeader_iff.2 ⟨c, rest', d, more', rfl, hnamed', hc, hd⟩
  exact Bool.eq_iff_iff.2 ⟨hforth hR.symm h, hforth hR h⟩

/-- **An include directive is looked for in both texts.** -/
theorem includesAt (hR : Alike unseen R) (hmarks : ∀ c ∈ ['<', '>', '"'], c ∉ unseen)
    (hdirective : ∀ c ∈ '#' :: "include".toList, c ∉ unseen) (hheader : ∀ c ∈ header, c ∉ unseen)
    (h : R s t) : includesAt header t = includesAt header s := by
  obtain ⟨hhash, hinclude⟩ := List.forall_mem_cons.1 hdirective
  have hone : ∀ c ∈ ['#'], c ∉ unseen := by simpa using hhash
  rw [Source.includesAt.eq_def header t, Source.includesAt.eq_def header s]
  obtain ⟨c, hc, rest, rest', hs, ht, h⟩ | ⟨hs, ht⟩ := hR.head_cases (hR.skipInline h) hone
  · obtain rfl := List.mem_singleton.1 hc
    rw [hs, ht]
    simp only
    obtain ⟨hs, ht⟩ | ⟨named, named', hs, ht, h⟩ :=
      rel_cases (hR.dropPrefix? hinclude (hR.skipInline h))
    · rw [hs, ht]
    · rw [hs, ht]
      exact hR.namesHeader hmarks hheader (hR.skipInline h)
  · split
    · rename_i rest' heq
      exact absurd heq (ht '#' (by simp) rest')
    · split
      · rename_i rest heq
        exact absurd heq (hs '#' (by simp) rest)
      · rfl

/-! ### Definitions of `main` -/

/-- **A definition is looked for in both texts.** -/
theorem definition? (hR : Alike unseen R)
    (hwords : ∀ word ∈ ['('] :: entryName :: returnTypes, ∀ c ∈ word, c ∉ unseen) (h : R s t) :
    Option.Rel R (definition? s) (definition? t) := by
  have htype : ∀ {s t}, R s t → Option.Rel R (returnType? s) (returnType? t) := by
    intro s t h
    rw [returnType?_eq, returnType?_eq]
    obtain ⟨hs, ht⟩ | ⟨rest, rest', hs, ht, h⟩ :=
      rel_cases (hR.dropPrefix? (hwords "int".toList (by decide)) h)
    · rw [hs, ht, Option.none_or, Option.none_or]
      exact hR.dropPrefix? (hwords "auto".toList (by decide)) h
    · rw [hs, ht]
      exact .some h
  have hname : ∀ {s t}, R s t → Option.Rel R (mainName? s) (mainName? t) := by
    intro s t h
    rw [mainName?_eq, mainName?_eq]
    obtain ⟨hs, ht⟩ | ⟨rest, rest', hs, ht, h⟩ :=
      rel_cases (hR.dropPrefix? (hwords "main".toList (by decide)) h)
    · rw [hs, ht]
      exact .none
    · rw [hs, ht]
      exact hR.dropPrefix? (hwords ['('] (by decide)) (hR.skipBlank h)
  rw [definition?_eq, definition?_eq]
  obtain ⟨hs, ht⟩ | ⟨rest, rest', hs, ht, h⟩ := rel_cases (htype h)
  · rw [hs, ht]
    exact .none
  · rw [hs, ht, Option.bind_some, Option.bind_some, hR.head h]
    split
    · exact hname (hR.skipBlank h)
    · exact .none

/-! ### Comments and literals -/

/-- **A comment or literal is looked for in both texts**, if its end is. -/
theorem lexeme?_eq_none (hR : Alike unseen R)
    (hopeners : ∀ c ∈ ['/', '*', '"', '\''], c ∉ unseen)
    (hblock : ∀ {s t}, R s t → closeBlock? s = none → closeBlock? t = none)
    (hquote : ∀ {quote s t}, quote ∈ ['"', '\''] → R s t → closeQuote? quote s = none →
      closeQuote? quote t = none) (h : R s t) (hs : lexeme? s = none) : lexeme? t = none := by
  have hslash := hopeners '/' (by decide)
  rw [lexeme?.eq_def t]
  split
  · obtain ⟨s, rfl, hrest⟩ := hR.right hslash h
    obtain ⟨s, rfl, -⟩ := hR.right hslash hrest
    exact absurd hs (by simp [lexeme?])
  · obtain ⟨s, rfl, hrest⟩ := hR.right hslash h
    obtain ⟨s, rfl, hbody⟩ := hR.right (hopeners '*' (by decide)) hrest
    exact extend_eq_none.2 (hblock hbody (extend_eq_none.1 hs))
  · obtain ⟨s, rfl, hbody⟩ := hR.right (hopeners '"' (by decide)) h
    exact extend_eq_none.2 (hquote (by decide) hbody (extend_eq_none.1 hs))
  · obtain ⟨s, rfl, hbody⟩ := hR.right (hopeners '\'' (by decide)) h
    exact extend_eq_none.2 (hquote (by decide) hbody (extend_eq_none.1 hs))
  · rfl

end Alike

end EntryTemplates.Source
