/-
**Definitions of `main`, and where they begin.**

A definition begins with a return type, which stands at the beginning of a word, and ends with a
parenthesis.  Behind its first character no place in it can be the beginning of another one: a word
goes on there, or it is the name `main` that begins.  So no two definitions overlap, and looking for
them from left to right finds one at every place where one begins.

Main definitions:

* `EntryTemplates.Source.IsDefinition` — the texts of definitions;
* `EntryTemplates.Source.Begins` — a definition begins with a text;
* `EntryTemplates.Source.beginningIn` — the number of places in a text where a definition begins;
* `EntryTemplates.Source.ReachesBehind` — a definition begins in a text and goes on behind it.

Main results:

* `EntryTemplates.Source.definition?_eq_some` — **what is read are the texts of definitions**;
* `EntryTemplates.Source.IsDefinition.isChain` — **no definition begins inside of another one**;
* `EntryTemplates.Source.countDefinitionsAfter_step` — **every place counts**;
* `EntryTemplates.Source.countDefinitionsAfter_append` — the definitions of two texts in a row;
* `EntryTemplates.Source.beginningIn_eq` — **at most one definition goes on behind a text**.
-/

import EntryTemplates.Source.Definitions
import EntryTemplates.Text.Search
import Mathlib.Data.List.Chain
import Mathlib.Data.List.TakeWhile

set_option relaxedAutoImplicit false
set_option autoImplicit false

namespace EntryTemplates.Source

open EntryTemplates.Text

/-! ### What is read -/

theorem returnType?_eq (s : List Char) : returnType? s =
    (dropPrefix? "int".toList s).or (dropPrefix? "auto".toList s) := by
  rw [returnType?.eq_def]
  split
  · rfl
  · rfl
  · rename_i hint hauto
    cases hi : dropPrefix? "int".toList s with
    | some rest => exact absurd (dropPrefix?_append hi) (hint rest)
    | none =>
        cases ha : dropPrefix? "auto".toList s with
        | some rest => exact absurd (dropPrefix?_append ha) (hauto rest)
        | none => rfl

theorem mainName?_eq (s : List Char) : mainName? s =
    (dropPrefix? "main".toList s).bind fun rest => dropPrefix? ['('] (rest.dropWhile isBlank) := by
  rw [mainName?.eq_def]
  split
  · rename_i rest
    change _ = dropPrefix? ['('] (rest.dropWhile isBlank)
    split
    · rename_i after hafter
      rw [hafter]
      rfl
    · rename_i hopen
      cases hp : dropPrefix? ['('] (rest.dropWhile isBlank) with
      | some after => exact absurd (dropPrefix?_append hp) (hopen after)
      | none => rfl
  · rename_i hmain
    cases hm : dropPrefix? "main".toList s with
    | some rest => exact absurd (dropPrefix?_append hm) (hmain rest)
    | none => rfl

theorem countDefinitionsAfter_cons (before : Option Char) (c : Char) (rest : List Char) :
    countDefinitionsAfter before (c :: rest) =
      if wordCanBegin before then
        match definition? (c :: rest) with
        | some after => countDefinitionsAfter (some '(') after + 1
        | none => countDefinitionsAfter (some c) rest
      else countDefinitionsAfter (some c) rest := by
  rw [countDefinitionsAfter]
  split
  · split
    · rename_i heq
      rw [heq]
    · rename_i heq
      rw [heq]
  · rfl

/-- The return types. -/
def returnTypes : List (List Char) := [['i', 'n', 't'], ['a', 'u', 't', 'o']]

/-- The name of what is defined. -/
def entryName : List Char := ['m', 'a', 'i', 'n']

/-- The text of a definition, up to its parenthesis. -/
inductive IsDefinition : List Char → Prop where
  | intro {type gap room : List Char} (htype : type ∈ returnTypes) (hne : gap ≠ [])
      (hgap : ∀ c ∈ gap, isBlank c = true) (hroom : ∀ c ∈ room, isBlank c = true) :
      IsDefinition (type ++ (gap ++ (entryName ++ (room ++ ['(']))))

section Reading

variable {s rest after : List Char}

theorem returnType?_eq_some :
    returnType? s = some rest ↔ ∃ type ∈ returnTypes, s = type ++ rest := by
  constructor
  · intro h
    rw [returnType?.eq_def] at h
    split at h
    · obtain rfl := Option.some.inj h
      exact ⟨['i', 'n', 't'], by decide, rfl⟩
    · obtain rfl := Option.some.inj h
      exact ⟨['a', 'u', 't', 'o'], by decide, rfl⟩
    · exact absurd h (by simp)
  · rintro ⟨type, htype, rfl⟩
    simp only [returnTypes, List.mem_cons, List.not_mem_nil, or_false] at htype
    rcases htype with rfl | rfl
    · rfl
    · rfl

/-- The white space in front of a text that begins with none. -/
theorem dropWhile_blanks {blanks : List Char} {c : Char} (hblanks : ∀ b ∈ blanks, isBlank b = true)
    (hc : isBlank c = false) (rest : List Char) :
    (blanks ++ c :: rest).dropWhile isBlank = c :: rest := by
  rw [List.dropWhile_append_of_pos hblanks, List.dropWhile_cons_of_neg (by simp [hc])]

theorem mainName?_eq_some :
    mainName? s = some after ↔
      ∃ room, (∀ c ∈ room, isBlank c = true) ∧ s = entryName ++ (room ++ '(' :: after) := by
  constructor
  · intro h
    rw [mainName?.eq_def] at h
    split at h
    · rename_i rest
      split at h
      · rename_i more hmore
        obtain rfl := Option.some.inj h
        refine ⟨rest.takeWhile isBlank, fun c hc => List.mem_takeWhile_imp hc, ?_⟩
        rw [← hmore, List.takeWhile_append_dropWhile]
        rfl
      · exact absurd h (by simp)
    · exact absurd h (by simp)
  · rintro ⟨room, hroom, rfl⟩
    have hdrop : (room ++ '(' :: after).dropWhile isBlank = '(' :: after :=
      dropWhile_blanks hroom (by decide) after
    simp only [entryName, List.cons_append, List.nil_append, mainName?, hdrop]

/-- **What is read are the texts of definitions.** -/
theorem definition?_eq_some :
    definition? s = some after ↔ ∃ text, IsDefinition text ∧ s = text ++ after := by
  constructor
  · intro h
    rw [definition?.eq_def] at h
    split at h
    · rename_i c rest htype
      obtain ⟨type, hmem, rfl⟩ := returnType?_eq_some.1 htype
      split at h
      · rename_i hc
        obtain ⟨room, hroom, hname⟩ := mainName?_eq_some.1 h
        obtain ⟨gap, hgap, hrest⟩ : ∃ gap, (∀ d ∈ gap, isBlank d = true) ∧
            rest = gap ++ rest.dropWhile isBlank :=
          ⟨rest.takeWhile isBlank, fun d hd => List.mem_takeWhile_imp hd,
            List.takeWhile_append_dropWhile.symm⟩
        rw [hname] at hrest
        subst hrest
        refine ⟨_, .intro hmem (List.cons_ne_nil c gap) ?_ hroom, by simp⟩
        exact List.forall_mem_cons.2 ⟨hc, hgap⟩
      · exact absurd h (by simp)
    · exact absurd h (by simp)
  · rintro ⟨text, htext, rfl⟩
    obtain @⟨type, gap, room, htype, hne, hgap, hroom⟩ := htext
    obtain ⟨c, gap, rfl⟩ := List.exists_cons_of_ne_nil hne
    obtain ⟨hc, hgap⟩ := List.forall_mem_cons.1 hgap
    have htype' : returnType? (type ++ c :: (gap ++ (entryName ++ (room ++ '(' :: after)))) =
        some (c :: (gap ++ (entryName ++ (room ++ '(' :: after)))) :=
      returnType?_eq_some.2 ⟨type, htype, rfl⟩
    have hname : (gap ++ (entryName ++ (room ++ '(' :: after))).dropWhile isBlank =
        entryName ++ (room ++ '(' :: after) := dropWhile_blanks hgap (by decide) _
    have hmain : mainName? (entryName ++ (room ++ '(' :: after)) = some after :=
      mainName?_eq_some.2 ⟨room, hroom, rfl⟩
    simp only [List.append_assoc, List.cons_append, List.nil_append]
    rw [definition?, htype']
    simp only [hc, if_true, hname, hmain]

theorem isSome_definition?_iff :
    (definition? s).isSome = true ↔ ∃ text, IsDefinition text ∧ text <+: s := by
  rw [Option.isSome_iff_exists]
  constructor
  · rintro ⟨after, hafter⟩
    obtain ⟨text, htext, rfl⟩ := definition?_eq_some.1 hafter
    exact ⟨text, htext, after, rfl⟩
  · rintro ⟨text, htext, after, rfl⟩
    exact ⟨after, definition?_eq_some.2 ⟨text, htext, rfl⟩⟩

end Reading

/-! ### Where definitions begin -/

/-- Behind `a` no word begins with `b`, or only the name of what is defined: `a` belongs to a word,
or `b` to none. -/
def Continues (a b : Char) : Prop := isWord a = true ∨ b = 'm' ∨ isWord b = false

/-- A definition begins with a text that stands after the character `before`. -/
def Begins (before : Option Char) (s : List Char) : Prop :=
  wordCanBegin before = true ∧ (definition? s).isSome = true

instance (before : Option Char) (s : List Char) : Decidable (Begins before s) :=
  inferInstanceAs (Decidable (_ ∧ _))

section Places

variable {text s p w rest after : List Char} {before : Option Char} {a b c : Char}

/-- A return type begins with one of two letters. -/
theorem IsDefinition.exists_cons (h : IsDefinition text) :
    ∃ c w, text = c :: w ∧ c ∈ ['i', 'a'] ∧ (c :: w).getLast? = some '(' := by
  obtain @⟨type, gap, room, htype, -, -, -⟩ := h
  have hlast : (type ++ (gap ++ (entryName ++ (room ++ ['('])))).getLast? = some '(' := by
    simp only [← List.append_assoc, List.getLast?_concat]
  simp only [returnTypes, List.mem_cons, List.not_mem_nil, or_false] at htype
  rcases htype with rfl | rfl
  · exact ⟨'i', _, rfl, by decide, hlast⟩
  · exact ⟨'a', _, rfl, by decide, hlast⟩

/-- The codes of white space, first and last of each range. -/
def blankRanges : List (Nat × Nat) :=
  [(0x09, 0x0D), (0x1C, 0x20), (0x85, 0x85), (0xA0, 0xA0), (0x1680, 0x1680), (0x2000, 0x200A),
    (0x2028, 0x2029), (0x202F, 0x202F), (0x205F, 0x205F), (0x3000, 0x3000)]

theorem exists_range_of_isBlank (hc : isBlank c = true) :
    ∃ row ∈ blankRanges, row.1 ≤ c.toNat ∧ c.toNat ≤ row.2 := by
  rw [← Text.inRanges_iff]
  simp only [isBlank, Bool.or_eq_true, Bool.and_eq_true, decide_eq_true_eq, beq_iff_eq] at hc
  simp only [Text.inRanges, blankRanges, List.any_cons, List.any_nil, Bool.or_eq_true,
    Bool.and_eq_true, decide_eq_true_eq]
  rcases hc with (((((((((h | h) | h) | h) | h) | h) | h) | h) | h) | h) | h <;> simp [h]

/-- White space belongs to no word. -/
theorem isWord_of_isBlank (hc : isBlank c = true) : isWord c = false := by
  obtain ⟨row, hrow, hfirst, hlast⟩ := exists_range_of_isBlank hc
  have hall : ∀ row ∈ blankRanges, ∀ i ≤ row.2 - row.1,
      isWord (Char.ofNat (row.1 + i)) = false := by
    decide +kernel
  have hword := hall row hrow (c.toNat - row.1) (by omega)
  rwa [Nat.add_sub_cancel' hfirst, Char.ofNat_toNat] at hword

/-- Two texts in a row, where no word begins with the second one, or only the name. -/
theorem isChain_append_of_head (hs : s.IsChain Continues) (hw : w.IsChain Continues)
    (hhead : ∀ d ∈ w.head?, d = 'm' ∨ isWord d = false) : (s ++ w).IsChain Continues :=
  List.isChain_append.2 ⟨hs, hw, fun _ _ d hd => Or.inr (hhead d hd)⟩

theorem isChain_of_blank (h : ∀ d ∈ s, isBlank d = true) : s.IsChain Continues := by
  induction s with
  | nil => exact .nil
  | cons c s ih =>
      have hs := fun d hd => h d (List.mem_cons_of_mem c hd)
      have hone : [c].IsChain Continues := .singleton c
      refine isChain_append_of_head hone (ih hs) fun d hd => ?_
      exact Or.inr (isWord_of_isBlank (hs d (List.mem_of_head? hd)))

/-- The letters of the return types and of the name stand in words. -/
theorem isWord_of_mem_words {word : List Char} (hword : word ∈ entryName :: returnTypes)
    (hc : c ∈ word) : isWord c = true := by
  have hall : ((entryName :: returnTypes).all fun word => word.all isWord) = true := by decide
  exact List.all_eq_true.1 (List.all_eq_true.1 hall word hword) c hc

/-- **No definition begins inside of another one.** -/
theorem IsDefinition.isChain (h : IsDefinition text) : text.IsChain Continues := by
  obtain @⟨type, gap, room, htype, hne, hgap, hroom⟩ := h
  have hword : ∀ word ∈ entryName :: returnTypes, word.IsChain Continues := by
    intro word hmem
    refine (List.isChain_isInfix word).imp fun a b hab => Or.inl ?_
    exact isWord_of_mem_words hmem (hab.subset List.mem_cons_self)
  have hopen : ['('].IsChain Continues := .singleton '('
  have hend : (room ++ ['(']).IsChain Continues :=
    isChain_append_of_head (isChain_of_blank hroom) hopen fun d hd => by
      obtain rfl := Option.some.inj hd
      decide
  have hname : (entryName ++ (room ++ ['('])).IsChain Continues := by
    refine isChain_append_of_head (hword entryName List.mem_cons_self) hend fun d hd => ?_
    cases room with
    | nil =>
        obtain rfl := Option.some.inj hd
        decide
    | cons c room =>
        obtain rfl := Option.some.inj hd
        exact Or.inr (isWord_of_isBlank (hroom _ List.mem_cons_self))
  have hbehind : (gap ++ (entryName ++ (room ++ ['(']))).IsChain Continues := by
    refine isChain_append_of_head (isChain_of_blank hgap) hname fun d hd => ?_
    obtain rfl := Option.some.inj hd
    decide
  refine isChain_append_of_head (hword type (List.mem_cons_of_mem _ htype)) hbehind fun d hd => ?_
  obtain ⟨c, gap, rfl⟩ := List.exists_cons_of_ne_nil hne
  obtain rfl := Option.some.inj hd
  exact Or.inr (isWord_of_isBlank (hgap _ List.mem_cons_self))

/-- The letters that return types begin with stand in words. -/
theorem isWord_of_mem_initials (hc : c ∈ ['i', 'a']) : isWord c = true := by
  have hall : ['i', 'a'].all isWord = true := by decide
  exact List.all_eq_true.1 hall c hc

theorem not_begins_of_head (hc : c ∉ ['i', 'a']) : ¬ Begins before (c :: rest) := by
  rintro ⟨-, hread⟩
  obtain ⟨after, hafter⟩ := Option.isSome_iff_exists.1 hread
  obtain ⟨text, htext, heq⟩ := definition?_eq_some.1 hafter
  obtain ⟨d, w, rfl, hd, -⟩ := htext.exists_cons
  obtain ⟨rfl, -⟩ := List.cons.inj heq
  exact hc hd

theorem not_begins_of_continues (h : Continues a b) : ¬ Begins (some a) (b :: rest) := by
  rcases h with ha | hb
  · rintro ⟨hbefore, -⟩
    rw [wordCanBegin, ha] at hbefore
    exact absurd hbefore (by decide)
  · refine not_begins_of_head fun hmem => ?_
    rw [isWord_of_mem_initials hmem] at hb
    rcases hb with rfl | hb
    · exact absurd hmem (by decide)
    · exact absurd hb (by decide)

theorem countDefinitionsAfter_of_not_begins (h : ¬ Begins before (c :: rest)) :
    countDefinitionsAfter before (c :: rest) = countDefinitionsAfter (some c) rest := by
  rw [countDefinitionsAfter_cons]
  split
  · rename_i hbefore
    split
    · rename_i after hafter
      exact absurd ⟨hbefore, by simp [hafter]⟩ h
    · rfl
  · rfl

/-- Where no definition begins, looking for one goes on behind. -/
theorem countDefinitionsAfter_of_isChain (h : (c :: w).IsChain Continues) (rest : List Char) :
    countDefinitionsAfter (some c) (w ++ rest) =
      countDefinitionsAfter (c :: w).getLast? rest := by
  induction w generalizing c with
  | nil => rfl
  | cons d w ih =>
      obtain ⟨hnext, hw⟩ := List.isChain_cons_cons.1 h
      rw [List.cons_append, countDefinitionsAfter_of_not_begins (not_begins_of_continues hnext),
        ih hw, List.getLast?_cons_cons]

/-- **Every place counts** at which a definition begins. -/
theorem countDefinitionsAfter_step (before : Option Char) (c : Char) (rest : List Char) :
    countDefinitionsAfter before (c :: rest) =
      (if Begins before (c :: rest) then 1 else 0) + countDefinitionsAfter (some c) rest := by
  by_cases hbegins : Begins before (c :: rest)
  · obtain ⟨hbefore, hread⟩ := id hbegins
    obtain ⟨after, hafter⟩ := Option.isSome_iff_exists.1 hread
    obtain ⟨text, htext, heq⟩ := definition?_eq_some.1 hafter
    obtain ⟨d, w, rfl, -, hlast⟩ := htext.exists_cons
    obtain ⟨rfl, hrest⟩ := List.cons.inj heq
    have hskip := countDefinitionsAfter_of_isChain htext.isChain after
    rw [← List.append_eq, ← hrest, hlast] at hskip
    rw [countDefinitionsAfter_cons, if_pos hbefore, hafter, if_pos hbegins, hskip, Nat.add_comm]
  · rw [countDefinitionsAfter_of_not_begins hbegins, if_neg hbegins, Nat.zero_add]

/-! ### Two texts in a row -/

/-- The places in a text at which a definition begins when `rest` stands behind it. -/
def beginningIn (before : Option Char) : List Char → List Char → Nat
  | [], _ => 0
  | c :: p, rest =>
      (if Begins before (c :: (p ++ rest)) then 1 else 0) + beginningIn (some c) p rest

theorem getLast?_cons_or (c : Char) (p : List Char) (before : Option Char) :
    (c :: p).getLast?.or before = p.getLast?.or (some c) := by
  rw [List.getLast?_cons]
  cases p.getLast? <;> rfl

/-- **The definitions of two texts in a row** begin in the first one or in the second one. -/
theorem countDefinitionsAfter_append (before : Option Char) (p rest : List Char) :
    countDefinitionsAfter before (p ++ rest) =
      beginningIn before p rest + countDefinitionsAfter (p.getLast?.or before) rest := by
  induction p generalizing before with
  | nil => rw [List.nil_append, beginningIn, Nat.zero_add, List.getLast?_nil, Option.none_or]
  | cons c p ih =>
      rw [List.cons_append, countDefinitionsAfter_step, ih, beginningIn, getLast?_cons_or,
        Nat.add_assoc]

/-- A definition begins in `p` and ends in what stands behind, with `front` in `p` and `back`
behind. -/
structure Spans (before : Option Char) (p rest front back : List Char) : Prop where
  text : IsDefinition (front ++ back)
  front_ne : front ≠ []
  back_ne : back ≠ []
  begins : ∃ start, p = start ++ front ∧ wordCanBegin (start.getLast?.or before) = true
  ends : back <+: rest

/-- **A definition begins in a text and goes on behind it.** -/
def ReachesBehind (before : Option Char) (p rest : List Char) : Prop :=
  ∃ front back, Spans before p rest front back

theorem not_reachesBehind_nil : ¬ ReachesBehind before [] rest := by
  rintro ⟨front, back, h⟩
  obtain ⟨start, hstart, -⟩ := h.begins
  exact h.front_ne (List.append_eq_nil_iff.1 hstart.symm).2

/-- No text of a definition goes on as another one. -/
theorem IsDefinition.eq_of_append (h : IsDefinition text) (h' : IsDefinition (text ++ rest)) :
    rest = [] := by
  have hread : definition? (text ++ rest) = some rest := definition?_eq_some.2 ⟨text, h, rfl⟩
  have hread' : definition? (text ++ rest) = some [] :=
    definition?_eq_some.2 ⟨text ++ rest, h', (List.append_nil _).symm⟩
  exact Option.some.inj (hread.symm.trans hread')

/-- It begins at the first character, or behind it. -/
theorem reachesBehind_cons : ReachesBehind before (c :: p) rest ↔
    (∃ back, Spans before (c :: p) rest (c :: p) back) ∨ ReachesBehind (some c) p rest := by
  constructor
  · rintro ⟨front, back, h⟩
    obtain ⟨start, hstart, hbefore⟩ := h.begins
    cases start with
    | nil =>
        rw [List.nil_append] at hstart
        exact Or.inl ⟨back, hstart ▸ h⟩
    | cons d start =>
        obtain ⟨rfl, rfl⟩ := List.cons.inj hstart
        rw [getLast?_cons_or] at hbefore
        exact Or.inr ⟨front, back, h.text, h.front_ne, h.back_ne, ⟨start, rfl, hbefore⟩, h.ends⟩
  · rintro (⟨back, h⟩ | ⟨front, back, h⟩)
    · exact ⟨c :: p, back, h⟩
    · obtain ⟨start, rfl, hbefore⟩ := h.begins
      refine ⟨front, back, h.text, h.front_ne, h.back_ne, ⟨c :: start, rfl, ?_⟩, h.ends⟩
      rwa [getLast?_cons_or]

/-- A definition at the beginning of a text ends in it, or goes on behind it. -/
theorem begins_append : Begins before (c :: (p ++ rest)) ↔
    Begins before (c :: p) ∨ ∃ back, Spans before (c :: p) rest (c :: p) back := by
  constructor
  · rintro ⟨hbefore, hread⟩
    obtain ⟨after, hafter⟩ := Option.isSome_iff_exists.1 hread
    obtain ⟨text, htext, heq⟩ := definition?_eq_some.1 hafter
    rw [← List.cons_append] at heq
    rcases List.append_eq_append_iff.1 heq with ⟨back, rfl, hrest⟩ | ⟨more, hp, -⟩
    · cases back with
      | nil =>
          rw [List.append_nil] at htext
          have hread' : definition? (c :: p) = some [] :=
            definition?_eq_some.2 ⟨c :: p, htext, (List.append_nil _).symm⟩
          exact Or.inl ⟨hbefore, by simp [hread']⟩
      | cons d back =>
          exact Or.inr ⟨d :: back, htext, List.cons_ne_nil c p, List.cons_ne_nil d back,
            ⟨[], rfl, hbefore⟩, ⟨after, hrest.symm⟩⟩
    · have hread' : definition? (c :: p) = some more := definition?_eq_some.2 ⟨text, htext, hp⟩
      exact Or.inl ⟨hbefore, by simp [hread']⟩
  · rintro (⟨hbefore, hread⟩ | ⟨back, h⟩)
    · obtain ⟨after, hafter⟩ := Option.isSome_iff_exists.1 hread
      obtain ⟨text, htext, heq⟩ := definition?_eq_some.1 hafter
      have hread' : definition? (c :: (p ++ rest)) = some (after ++ rest) :=
        definition?_eq_some.2 ⟨text, htext, by rw [← List.cons_append, heq, List.append_assoc]⟩
      exact ⟨hbefore, by simp [hread']⟩
    · obtain ⟨start, hstart, hbefore⟩ := h.begins
      obtain rfl : start = [] := List.self_eq_append_left.1 hstart
      obtain ⟨after, rfl⟩ := h.ends
      have hread' : definition? (c :: (p ++ (back ++ after))) = some after :=
        definition?_eq_some.2 ⟨c :: p ++ back, h.text, by simp⟩
      exact ⟨hbefore, by simp [hread']⟩

/-- A definition that goes on behind a text does not end in it. -/
theorem Spans.not_begins {back : List Char} (h : Spans before (c :: p) rest (c :: p) back) :
    ¬ Begins before (c :: p) := by
  rintro ⟨-, hread⟩
  obtain ⟨after, hafter⟩ := Option.isSome_iff_exists.1 hread
  obtain ⟨text, htext, heq⟩ := definition?_eq_some.1 hafter
  have hspans := h.text
  rw [heq, List.append_assoc] at hspans
  exact h.back_ne (List.append_eq_nil_iff.1 (htext.eq_of_append hspans)).2

/-- Inside of a definition none begins, whatever stands behind. -/
theorem beginningIn_of_isChain (h : (c :: p).IsChain Continues) (rest : List Char) :
    beginningIn (some c) p rest = 0 := by
  induction p generalizing c with
  | nil => rfl
  | cons d p ih =>
      obtain ⟨hnext, hp⟩ := List.isChain_cons_cons.1 h
      rw [beginningIn, if_neg (not_begins_of_continues hnext), ih hp]

/-- **At most one definition of a text goes on behind it.** -/
theorem beginningIn_eq (before : Option Char) (p rest : List Char) :
    (ReachesBehind before p rest → beginningIn before p rest = beginningIn before p [] + 1) ∧
      (¬ ReachesBehind before p rest → beginningIn before p rest = beginningIn before p []) := by
  induction p generalizing before with
  | nil => exact ⟨fun h => absurd h not_reachesBehind_nil, fun _ => rfl⟩
  | cons c p ih =>
      obtain ⟨hpos, hneg⟩ := ih (some c)
      rw [reachesBehind_cons, beginningIn, beginningIn, List.append_nil]
      by_cases hspans : ∃ back, Spans before (c :: p) rest (c :: p) back
      · -- it begins at the first character, so none begins behind that
        obtain ⟨back, h⟩ := id hspans
        have hchain : (c :: p).IsChain Continues := h.text.isChain.left_of_append
        refine ⟨fun _ => ?_, fun hnot => absurd (Or.inl hspans) hnot⟩
        rw [if_pos (begins_append.2 (Or.inr hspans)), if_neg h.not_begins,
          beginningIn_of_isChain hchain, beginningIn_of_isChain hchain]
      · have hhead : Begins before (c :: (p ++ rest)) ↔ Begins before (c :: p) :=
          begins_append.trans (or_iff_left hspans)
        simp only [hspans, false_or, hhead]
        refine ⟨fun h => ?_, fun h => ?_⟩
        · rw [hpos h, Nat.add_assoc]
        · rw [hneg h]

end Places

end EntryTemplates.Source
