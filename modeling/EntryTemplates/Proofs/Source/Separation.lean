/-
**Block comments between the words of a text.**

Definitions of `main` are counted in a text without its comments.  A comment that has a line feed
leaves it behind, and separates what stands around it as a blank does.  A comment on one line leaves
nothing, which makes a difference only where words meet: in a word of a definition it puts the
halves together, and between the return type and the name, or in front of a definition, it takes
away the only gap there is.

Main definitions:

* `EntryTemplates.Source.blockComment` — a block comment;
* `EntryTemplates.Source.WordsMeet` — characters of words stand on both sides of a place;
* `EntryTemplates.Source.NeedsGap` — a blank there is the only gap in a definition, or in front of
  one.

Main results:

* `EntryTemplates.Source.countDefinitionsAfter_gap` — **how much white space there is does not
  matter**;
* `EntryTemplates.Source.countDefinitions_blank` — a blank matters only where words meet;
* `EntryTemplates.Source.countDefinitions_words` — and what it does there;
* `EntryTemplates.Source.mainCount_blockComment` — **block comments compared with blanks**;
* `EntryTemplates.Source.commented_gap_lost` — a comment in the place of the gap in a definition.
-/

import EntryTemplates.Proofs.Source.Definitions
import EntryTemplates.Proofs.Source.Lexemes
import Mathlib.Data.List.Infix

set_option relaxedAutoImplicit false
set_option autoImplicit false

namespace EntryTemplates.Source

open EntryTemplates.Text

variable {text s p word gap : List Char} {before : Option Char} {x : Char}

/-- A block comment. -/
def blockComment (body : List Char) : List Char := '/' :: '*' :: body ++ ['*', '/']

/-- `p` ends and `s` begins with a character of words. -/
def WordsMeet (p s : List Char) : Prop :=
  (∃ c ∈ p.getLast?, isWord c = true) ∧ ∃ c ∈ s.head?, isWord c = true

/-- With a blank between `p` and `s` a definition begins in `p` and ends in `s`, or `s` begins with
one. -/
def NeedsGap (p s : List Char) : Prop :=
  ReachesBehind none p (' ' :: s) ∨ ∃ text, IsDefinition text ∧ text <+: s

/-! ### White space between the parts of a definition -/

/-- A word is looked for in front of a character that it does not contain. -/
theorem dropPrefix?_of_not_mem (hx : x ∉ word) (front t : List Char) :
    dropPrefix? word (front ++ x :: t) = (dropPrefix? word front).map (· ++ x :: t) := by
  induction word generalizing front with
  | nil => rfl
  | cons a word ih =>
      obtain ⟨hne, hx⟩ := not_or.1 (List.mem_cons.not.1 hx)
      cases front with
      | nil =>
          rw [List.nil_append, dropPrefix?, dropPrefix?, if_neg (Ne.symm hne)]
          rfl
      | cons c front =>
          rw [List.cons_append, dropPrefix?, dropPrefix?]
          split
          · exact ih hx front
          · rfl

/-- No letter of a return type or of the name is left out of a word. -/
theorem not_mem_of_not_isWord (hx : isWord x = false) (word : List Char)
    (hword : word ∈ entryName :: returnTypes) : x ∉ word := by
  intro hmem
  rw [isWord_of_mem_words hword hmem] at hx
  exact absurd hx (by decide)

theorem dropWhile_isBlank_idem (s : List Char) :
    (s.dropWhile isBlank).dropWhile isBlank = s.dropWhile isBlank := by
  cases hs : s.dropWhile isBlank with
  | nil => rfl
  | cons c rest =>
      have hhead := List.head?_dropWhile_not isBlank s
      rw [hs] at hhead
      exact List.dropWhile_cons_of_neg (by simpa using hhead)

/-- White space in front of a blank and the white space behind it: it is all passed over. -/
theorem dropWhile_gap (x : Char) (front t : List Char) :
    ((front ++ x :: t).dropWhile isBlank = (x :: t).dropWhile isBlank ∧
      (front ++ ' ' :: (x :: t).dropWhile isBlank).dropWhile isBlank =
        (x :: t).dropWhile isBlank) ∨
    ∃ c rest, (front ++ x :: t).dropWhile isBlank = c :: (rest ++ x :: t) ∧
      (front ++ ' ' :: (x :: t).dropWhile isBlank).dropWhile isBlank =
        c :: (rest ++ ' ' :: (x :: t).dropWhile isBlank) := by
  rw [List.dropWhile_append, List.dropWhile_append]
  cases hfront : front.dropWhile isBlank with
  | nil =>
      have hblank : (' ' :: (x :: t).dropWhile isBlank).dropWhile isBlank =
          (x :: t).dropWhile isBlank := by
        rw [List.dropWhile_cons_of_pos (by decide), dropWhile_isBlank_idem]
      exact Or.inl ⟨rfl, hblank⟩
  | cons c rest => exact Or.inr ⟨c, rest, rfl, rfl⟩

theorem isSome_mainName?_gap (hx : isWord x = false) (front t : List Char) :
    (mainName? (front ++ x :: t)).isSome =
      (mainName? (front ++ ' ' :: (x :: t).dropWhile isBlank)).isSome := by
  have hname (z : Char) (hz : isWord z = false) (more : List Char) :
      dropPrefix? "main".toList (front ++ z :: more) =
        (dropPrefix? "main".toList front).map (· ++ z :: more) :=
    dropPrefix?_of_not_mem (not_mem_of_not_isWord hz "main".toList (by decide)) front more
  rw [mainName?_eq, mainName?_eq, hname x hx, hname ' ' (by decide)]
  cases dropPrefix? "main".toList front with
  | none => rfl
  | some v =>
      simp only [Option.map_some, Option.bind_some]
      rcases dropWhile_gap x v t with ⟨hleft, hright⟩ | ⟨c, more, hleft, hright⟩
      · rw [hleft, hright]
      · have hopen (more : List Char) :
            (dropPrefix? ['('] (c :: more)).isSome = decide ('(' = c) := by
          rw [dropPrefix?]
          split
          · rename_i hc
            exact (decide_eq_true hc).symm
          · rename_i hc
            exact (decide_eq_false hc).symm
        rw [hleft, hright, hopen, hopen]

/-- **A blank in front of what belongs to no word**, and the white space behind it, are not missed
in a definition. -/
theorem isSome_definition?_gap (hx : isWord x = false) (front t : List Char) :
    (definition? (front ++ x :: t)).isSome =
      (definition? (front ++ ' ' :: (x :: t).dropWhile isBlank)).isSome := by
  have htype (z : Char) (hz : isWord z = false) (more : List Char) :
      returnType? (front ++ z :: more) = (returnType? front).map (· ++ z :: more) := by
    have hint := not_mem_of_not_isWord hz "int".toList (by decide)
    have hauto := not_mem_of_not_isWord hz "auto".toList (by decide)
    rw [returnType?_eq, returnType?_eq, dropPrefix?_of_not_mem hint, dropPrefix?_of_not_mem hauto,
      Option.map_or]
  rw [definition?, definition?, htype x hx, htype ' ' (by decide)]
  cases returnType? front with
  | none => rfl
  | some v =>
      cases v with
      | nil =>
          simp only [Option.map_some, List.nil_append]
          by_cases hblank : isBlank x = true
          · rw [if_pos hblank, if_pos (by decide), List.dropWhile_cons_of_pos hblank,
              dropWhile_isBlank_idem]
          · have hname : mainName? (x :: t) = none := by
              refine Option.eq_none_iff_forall_ne_some.2 fun after hafter => ?_
              obtain ⟨room, -, heq⟩ := mainName?_eq_some.1 hafter
              rw [(List.cons.inj heq).1] at hx
              exact absurd hx (by decide)
            rw [if_neg hblank, if_pos (by decide), dropWhile_isBlank_idem,
              List.dropWhile_cons_of_neg hblank, hname]
      | cons c v =>
          simp only [Option.map_some, List.cons_append]
          split
          · rcases dropWhile_gap x v t with ⟨hleft, hright⟩ | ⟨d, more, hleft, hright⟩
            · rw [hleft, hright]
            · rw [hleft, hright]
              exact isSome_mainName?_gap hx (d :: more) t
          · rfl

/-! ### Counting across a gap -/

theorem begins_congr {before' : Option Char} (h : wordCanBegin before = wordCanBegin before')
    (s : List Char) : Begins before s ↔ Begins before' s := by rw [Begins, Begins, h]

/-- What stands before a text matters only for whether a word can begin there. -/
theorem countDefinitionsAfter_congr {before' : Option Char}
    (h : wordCanBegin before = wordCanBegin before') (s : List Char) :
    countDefinitionsAfter before s = countDefinitionsAfter before' s := by
  cases s with
  | nil => rw [countDefinitionsAfter, countDefinitionsAfter]
  | cons c s => simp only [countDefinitionsAfter_step, begins_congr h]

theorem wordCanBegin_of_not_isWord (hx : isWord x = false) : wordCanBegin (some x) = true := by
  rw [wordCanBegin, hx]
  rfl

/-- What belongs to no word begins no definition. -/
theorem countDefinitionsAfter_of_not_isWord (hx : isWord x = false) (before : Option Char)
    (t : List Char) :
    countDefinitionsAfter before (x :: t) = countDefinitionsAfter none t := by
  have hnot : ¬ Begins before (x :: t) := by
    refine not_begins_of_head fun hmem => ?_
    rw [isWord_of_mem_initials hmem] at hx
    exact absurd hx (by decide)
  rw [countDefinitionsAfter_of_not_begins hnot]
  exact countDefinitionsAfter_congr (wordCanBegin_of_not_isWord hx) t

theorem countDefinitionsAfter_dropWhile (t : List Char) :
    countDefinitionsAfter none (t.dropWhile isBlank) = countDefinitionsAfter none t := by
  induction t with
  | nil => rfl
  | cons c t ih =>
      by_cases hc : isBlank c = true
      · rw [List.dropWhile_cons_of_pos hc, ih,
          countDefinitionsAfter_of_not_isWord (isWord_of_isBlank hc)]
      · rw [List.dropWhile_cons_of_neg hc]

/-- **How much white space there is does not matter** behind a text, nor whether there is any in
front of what belongs to no word. -/
theorem countDefinitionsAfter_gap (hx : isWord x = false) (before : Option Char)
    (p t : List Char) :
    countDefinitionsAfter before (p ++ x :: t) =
      countDefinitionsAfter before (p ++ ' ' :: (x :: t).dropWhile isBlank) := by
  induction p generalizing before with
  | nil =>
      rw [List.nil_append, List.nil_append, countDefinitionsAfter_of_not_isWord hx,
        countDefinitionsAfter_of_not_isWord (x := ' ') (by decide),
        countDefinitionsAfter_dropWhile, countDefinitionsAfter_of_not_isWord hx]
  | cons c p ih =>
      have hbegins : Begins before (c :: (p ++ x :: t)) ↔
          Begins before (c :: (p ++ ' ' :: (x :: t).dropWhile isBlank)) := by
        have hsome := isSome_definition?_gap hx (c :: p) t
        rw [List.cons_append, List.cons_append] at hsome
        rw [Begins, Begins, hsome]
      simp only [List.cons_append, countDefinitionsAfter_step, hbegins, ih]

/-- Any white space will do in the place of a blank. -/
theorem countDefinitionsAfter_blanks (hgap : ∀ c ∈ gap, isBlank c = true) (hne : gap ≠ [])
    (before : Option Char) (p s : List Char) :
    countDefinitionsAfter before (p ++ (gap ++ s)) =
      countDefinitionsAfter before (p ++ ' ' :: s) := by
  obtain ⟨c, gap, rfl⟩ := List.exists_cons_of_ne_nil hne
  have hc : isWord c = false := isWord_of_isBlank (hgap c List.mem_cons_self)
  have hdrop : (c :: (gap ++ s)).dropWhile isBlank = s.dropWhile isBlank :=
    List.dropWhile_append_of_pos hgap
  have hblank : (' ' :: s).dropWhile isBlank = s.dropWhile isBlank :=
    List.dropWhile_cons_of_pos (by decide)
  rw [List.cons_append, countDefinitionsAfter_gap hc, hdrop, ← hblank]
  exact (countDefinitionsAfter_gap (by decide) before p s).symm

/-! ### Where no words meet -/

/-- All of a definition but its parenthesis is words and white space. -/
theorem IsDefinition.exists_concat (h : IsDefinition text) :
    ∃ body, text = body ++ ['('] ∧ ∀ c ∈ body, isWord c = true ∨ isBlank c = true := by
  obtain @⟨type, gap, room, htype, -, hgap, hroom⟩ := h
  refine ⟨type ++ (gap ++ (entryName ++ room)), by simp only [List.append_assoc], ?_⟩
  simp only [List.forall_mem_append]
  exact ⟨fun c hc => Or.inl (isWord_of_mem_words (List.mem_cons_of_mem _ htype) hc),
    fun c hc => Or.inr (hgap c hc),
    fun c hc => Or.inl (isWord_of_mem_words List.mem_cons_self hc),
    fun c hc => Or.inr (hroom c hc)⟩

/-- A definition does not go on behind a character that belongs to no word and is no blank. -/
theorem not_reachesBehind_concat (hx : isWord x = false) (hblank : isBlank x = false)
    (before : Option Char) (p rest : List Char) : ¬ ReachesBehind before (p ++ [x]) rest := by
  rintro ⟨front, back, h⟩
  obtain ⟨start, hstart, -⟩ := h.begins
  obtain ⟨body, hbody, hall⟩ := h.text.exists_concat
  -- the parenthesis stands in `back`, so `x` is one of the other characters
  obtain ⟨back', last, rfl⟩ := (List.eq_nil_or_concat' back).resolve_left h.back_ne
  rw [← List.append_assoc] at hbody
  obtain ⟨rfl, -⟩ := List.append_inj' hbody rfl
  have hlast : front.getLast? = some x := by
    have hp := congrArg List.getLast? hstart
    rw [List.getLast?_concat, List.getLast?_append_of_ne_nil _ h.front_ne] at hp
    exact hp.symm
  rcases hall x (List.mem_append_left _ (List.mem_of_getLast? hlast)) with hword | hblank'
  · exact absurd (hx.symm.trans hword) (by decide)
  · exact absurd (hblank.symm.trans hblank') (by decide)

/-- No definition ends with a blank. -/
theorem not_reachesBehind_blank : ¬ ReachesBehind before p [' '] := by
  rintro ⟨front, back, h⟩
  obtain ⟨body, hbody, -⟩ := h.text.exists_concat
  obtain ⟨after, hafter⟩ := h.ends
  obtain ⟨c, back', rfl⟩ := List.exists_cons_of_ne_nil h.back_ne
  obtain ⟨rfl, hnil⟩ := List.cons.inj hafter
  rw [(List.append_eq_nil_iff.1 hnil).1] at hbody
  exact absurd (List.append_inj' hbody rfl).2 (by decide)

/-- **A blank makes no difference where no words meet.** -/
theorem countDefinitions_blank (h : ¬ WordsMeet p s) :
    countDefinitions (p ++ s) = countDefinitions (p ++ ' ' :: s) := by
  rw [countDefinitions, countDefinitions]
  cases s with
  | nil =>
      have hnil : ¬ ReachesBehind none p [] := by
        rintro ⟨front, back, h⟩
        exact h.back_ne (List.prefix_nil.1 h.ends)
      rw [countDefinitionsAfter_append, countDefinitionsAfter_append,
        (beginningIn_eq none p [' ']).2 not_reachesBehind_blank,
        countDefinitionsAfter_of_not_isWord (x := ' ') (by decide)]
      exact congrArg _ (by rw [countDefinitionsAfter, countDefinitionsAfter])
  | cons y s =>
      by_cases hy : isWord y = true
      · -- the first text does not end with a word
        rcases List.eq_nil_or_concat' p with rfl | ⟨p, x, rfl⟩
        · exact (countDefinitionsAfter_of_not_isWord (by decide) none (y :: s)).symm
        · have hx : isWord x = false := by
            rw [Bool.eq_false_iff]
            exact fun hx => h ⟨⟨x, List.getLast?_concat, hx⟩, ⟨y, rfl, hy⟩⟩
          by_cases hblank : isBlank x = true
          · have hgap : ∀ c ∈ [x, ' '], isBlank c = true := by
              simp [hblank, (by decide : isBlank ' ' = true)]
            have hone := countDefinitionsAfter_blanks (List.forall_mem_singleton.2 hblank)
              (List.cons_ne_nil x []) none p (y :: s)
            have htwo := countDefinitionsAfter_blanks hgap (List.cons_ne_nil x [' ']) none p
              (y :: s)
            rw [List.append_assoc, List.append_assoc, hone]
            exact htwo.symm
          · have hopen := not_reachesBehind_concat hx (Bool.eq_false_iff.2 hblank) none p
            have hlast : countDefinitionsAfter ((p ++ [x]).getLast?.or none) (y :: s) =
                countDefinitionsAfter ((p ++ [x]).getLast?.or none) (' ' :: y :: s) := by
              rw [countDefinitionsAfter_of_not_isWord (x := ' ') (by decide), List.getLast?_concat]
              exact countDefinitionsAfter_congr (wordCanBegin_of_not_isWord hx) (y :: s)
            rw [countDefinitionsAfter_append, countDefinitionsAfter_append, hlast,
              (beginningIn_eq none (p ++ [x]) (y :: s)).2 (hopen _),
              (beginningIn_eq none (p ++ [x]) (' ' :: y :: s)).2 (hopen _)]
      · have hgap := countDefinitionsAfter_gap (Bool.eq_false_iff.2 hy) none p s
        have hblank := countDefinitionsAfter_gap (x := ' ') (by decide) none p (y :: s)
        rw [List.dropWhile_cons_of_pos (by decide)] at hblank
        rw [hgap, hblank]

/-! ### Where words meet -/

/-- **Two characters of words in a row** belong to the first word of a text, or stand behind the gap
that follows it. -/
theorem cut_word {f b rest : List Char} {a y : Char} (hne : gap ≠ [])
    (hgap : ∀ c ∈ gap, isWord c = false) (ha : isWord a = true) (hy : isWord y = true)
    (h : word ++ (gap ++ rest) = f ++ [a] ++ y :: b) :
    (∃ r, word = f ++ [a] ++ y :: r ∧ b = r ++ (gap ++ rest)) ∨
      ∃ f', f ++ [a] = word ++ (gap ++ (f' ++ [a])) ∧ rest = f' ++ [a] ++ y :: b := by
  have hnot : ∀ c, isWord c = true → c ∉ gap := by
    intro c hc hmem
    exact absurd (hc.symm.trans (hgap c hmem)) (by decide)
  have hlast : ∀ l, f ++ [a] = l ++ gap → False := by
    intro l hl
    obtain ⟨gap', c, rfl⟩ := (List.eq_nil_or_concat' gap).resolve_left hne
    rw [← List.append_assoc] at hl
    obtain ⟨-, hc⟩ := List.append_inj' hl rfl
    exact hnot a ha (by simp [(List.cons.inj hc).1])
  rcases List.append_eq_append_iff.1 h with ⟨f', hf, hrest⟩ | ⟨r, hword, hb⟩
  · rcases List.append_eq_append_iff.1 hrest with ⟨f'', hf', hrest'⟩ | ⟨r, hgap', hb⟩
    · rcases List.eq_nil_or_concat' f'' with rfl | ⟨f'', d, rfl⟩
      · rw [List.append_nil] at hf'
        exact absurd (hf' ▸ hf) (hlast word)
      · rw [hf', ← List.append_assoc, ← List.append_assoc] at hf
        obtain ⟨-, hd⟩ := List.append_inj' hf rfl
        obtain ⟨rfl, -⟩ := List.cons.inj hd
        refine Or.inr ⟨f'', by rw [hf]; simp only [List.append_assoc], hrest'⟩
    · cases r with
      | nil =>
          rw [List.append_nil] at hgap'
          exact absurd (hgap' ▸ hf) (hlast word)
      | cons d r =>
          obtain ⟨rfl, -⟩ := List.cons.inj hb
          exact absurd (hgap' ▸ List.mem_append_right f' List.mem_cons_self) (hnot y hy)
  · cases r with
    | nil =>
        obtain ⟨d, gap', rfl⟩ := List.exists_cons_of_ne_nil hne
        obtain ⟨rfl, -⟩ := List.cons.inj hb
        exact absurd List.mem_cons_self (hnot _ hy)
    | cons d r =>
        obtain ⟨rfl, hb'⟩ := List.cons.inj hb
        exact Or.inl ⟨r, hword, hb'⟩

/-- Two characters of words in a row belong to one of the words of a definition. -/
theorem IsDefinition.exists_word {f b : List Char} {a y : Char}
    (h : IsDefinition (f ++ [a] ++ y :: b)) (ha : isWord a = true) (hy : isWord y = true) :
    ∃ word ∈ entryName :: returnTypes, ∃ l r x more, word = l ++ [a] ++ y :: r ∧
      b = r ++ x :: more ∧ isWord x = false := by
  generalize htext : f ++ [a] ++ y :: b = text at h
  obtain @⟨type, gap, room, htype, hne, hgap, hroom⟩ := h
  have hword : ∀ c ∈ gap, isWord c = false := fun c hc => isWord_of_isBlank (hgap c hc)
  have hend : ∀ c ∈ room ++ ['('], isWord c = false := by
    intro c hc
    rcases List.mem_append.1 hc with hc | hc
    · exact isWord_of_isBlank (hroom c hc)
    · rw [List.mem_singleton.1 hc]
      decide
  have hends : room ++ ['('] ≠ [] := by simp
  rcases cut_word hne hword ha hy htext.symm with ⟨r, hr, hb⟩ | ⟨f', -, hrest⟩
  · obtain ⟨x, gap, rfl⟩ := List.exists_cons_of_ne_nil hne
    exact ⟨type, List.mem_cons_of_mem _ htype, f, r, x, _, hr, hb, hword x List.mem_cons_self⟩
  · rw [← List.append_nil (room ++ ['('])] at hrest
    rcases cut_word hends hend ha hy hrest with ⟨r, hr, hb⟩ | ⟨f'', -, hnil⟩
    · obtain ⟨x, more, hx⟩ := List.exists_cons_of_ne_nil hends
      rw [hx] at hb hend
      exact ⟨entryName, List.mem_cons_self, f', r, x, _, hr, hb, hend x List.mem_cons_self⟩
    · exact absurd hnil (by simp)

section Words

variable {f : List Char} {a y : Char}

/-- The rest of a word of a definition: it begins with no return type, and not with the first letter
of the name. -/
theorem rest_of_word {l r : List Char} (hword : word ∈ entryName :: returnTypes)
    (h : word = l ++ [a] ++ y :: r) (hx : isWord x = false) (more : List Char) :
    definition? (y :: (r ++ x :: more)) = none ∧ y ≠ 'm' := by
  have hmem : y :: r ∈ word.tail.tails := by
    rw [List.mem_tails, h]
    cases l with
    | nil => exact List.suffix_refl _
    | cons d l => exact ⟨l ++ [a], rfl⟩
  have hall : ∀ w ∈ entryName :: returnTypes, ∀ t ∈ w.tail.tails,
      dropPrefix? "int".toList t = none ∧ dropPrefix? "auto".toList t = none ∧
        t.head? ≠ some 'm' := by decide
  obtain ⟨hint, hauto, hm⟩ := hall word hword _ hmem
  refine ⟨?_, fun heq => hm (congrArg some heq)⟩
  have htype (name : List Char) (hname : name ∈ entryName :: returnTypes)
      (hnone : dropPrefix? name (y :: r) = none) :
      dropPrefix? name (y :: (r ++ x :: more)) = none := by
    rw [← List.cons_append, dropPrefix?_of_not_mem (not_mem_of_not_isWord hx name hname), hnone]
    rfl
  have hnone : returnType? (y :: (r ++ x :: more)) = none := by
    rw [returnType?_eq, htype _ (by decide) hint, htype _ (by decide) hauto]
    rfl
  rw [definition?, hnone]

/-- What stands behind a place at which a definition goes on. -/
theorem ReachesBehind.of_words (h : ReachesBehind before (f ++ [a]) (y :: s))
    (ha : isWord a = true) (hy : isWord y = true) : definition? (y :: s) = none ∧ y ≠ 'm' := by
  obtain ⟨front, back, h⟩ := h
  obtain ⟨start, hstart, -⟩ := h.begins
  obtain ⟨after, hafter⟩ := h.ends
  obtain ⟨front, c, rfl⟩ := (List.eq_nil_or_concat' front).resolve_left h.front_ne
  obtain ⟨d, back, rfl⟩ := List.exists_cons_of_ne_nil h.back_ne
  rw [← List.append_assoc] at hstart
  obtain ⟨-, hc⟩ := List.append_inj' hstart rfl
  obtain ⟨rfl, -⟩ := List.cons.inj hc
  obtain ⟨rfl, rfl⟩ := List.cons.inj hafter
  obtain ⟨word, hword, l, r, x, more, hcut, rfl, hx⟩ := h.text.exists_word ha hy
  have hrest := rest_of_word hword hcut hx (more ++ after)
  simpa using hrest

/-- What stands behind the only blank of a definition is its name. -/
theorem ReachesBehind.of_blank (h : ReachesBehind before p (' ' :: y :: s))
    (hy : isWord y = true) : y = 'm' := by
  obtain ⟨front, back, h⟩ := h
  obtain ⟨after, hafter⟩ := h.ends
  obtain ⟨c, back, rfl⟩ := List.exists_cons_of_ne_nil h.back_ne
  obtain ⟨rfl, hrest⟩ := List.cons.inj hafter
  cases back with
  | nil =>
      obtain ⟨body, hbody, -⟩ := h.text.exists_concat
      exact absurd (List.append_inj' hbody rfl).2 (by decide)
  | cons d back =>
      obtain ⟨rfl, -⟩ := List.cons.inj hrest
      have hchain := h.text.isChain.right_of_append
      rcases (List.isChain_cons_cons.1 hchain).1 with hblank | hm | hword
      · exact absurd hblank (by decide)
      · exact hm
      · exact absurd (hword.symm.trans hy) (by decide)

/-- **What a blank does where words meet.**  Without it there is one definition more if the halves
of a word of a definition are put together, and one less if the blank is the only gap in a
definition or in front of one. -/
theorem countDefinitions_words (h : WordsMeet p s) :
    (ReachesBehind none p s → countDefinitions (p ++ s) = countDefinitions (p ++ ' ' :: s) + 1) ∧
    (NeedsGap p s → countDefinitions (p ++ s) + 1 = countDefinitions (p ++ ' ' :: s)) ∧
    (¬ ReachesBehind none p s → ¬ NeedsGap p s →
      countDefinitions (p ++ s) = countDefinitions (p ++ ' ' :: s)) := by
  obtain ⟨⟨a, hlast, ha⟩, ⟨y, hhead, hy⟩⟩ := h
  obtain ⟨f, rfl⟩ : ∃ f, p = f ++ [a] := ⟨p.dropLast, (List.dropLast_append_getLast? a hlast).symm⟩
  obtain ⟨s, rfl⟩ : ∃ t, s = y :: t := ⟨s.tail, (List.cons_head?_tail hhead).symm⟩
  -- both texts are counted up to the blank, and from the second character behind it
  have hjoined : countDefinitions (f ++ [a] ++ y :: s) =
      beginningIn none (f ++ [a]) (y :: s) + countDefinitionsAfter (some y) s := by
    have hnot : ¬ Begins (some a) (y :: s) := not_begins_of_continues (Or.inl ha)
    rw [countDefinitions, countDefinitionsAfter_append, List.getLast?_concat, Option.some_or,
      countDefinitionsAfter_of_not_begins hnot]
  have hparted : countDefinitions (f ++ [a] ++ ' ' :: y :: s) =
      beginningIn none (f ++ [a]) (' ' :: y :: s) +
        ((if Begins none (y :: s) then 1 else 0) + countDefinitionsAfter (some y) s) := by
    rw [countDefinitions, countDefinitionsAfter_append,
      countDefinitionsAfter_of_not_isWord (by decide), countDefinitionsAfter_step]
  have hbegins : Begins none (y :: s) ↔ ∃ text, IsDefinition text ∧ text <+: y :: s :=
    (and_iff_right rfl).trans isSome_definition?_iff
  obtain ⟨hcut, hwhole⟩ := beginningIn_eq none (f ++ [a]) (y :: s)
  obtain ⟨hcut', hwhole'⟩ := beginningIn_eq none (f ++ [a]) (' ' :: y :: s)
  rw [hjoined, hparted, NeedsGap, ← hbegins]
  -- only one of the three can be the case
  have hone : ReachesBehind none (f ++ [a]) (y :: s) →
      ¬ ReachesBehind none (f ++ [a]) (' ' :: y :: s) ∧ ¬ Begins none (y :: s) := by
    intro h
    obtain ⟨hnone, hm⟩ := h.of_words ha hy
    exact ⟨fun hblank => hm (hblank.of_blank hy), fun hbegin => by simp [Begins, hnone] at hbegin⟩
  have hother : ReachesBehind none (f ++ [a]) (' ' :: y :: s) → ¬ Begins none (y :: s) := by
    intro h
    rw [h.of_blank hy]
    exact not_begins_of_head (by decide)
  refine ⟨fun h => ?_, fun h => ?_, fun h h' => ?_⟩
  · rw [hcut h, hwhole' (hone h).1, if_neg (hone h).2]
    omega
  · rcases h with h | h
    · rw [hwhole fun hcut => (hone hcut).1 h, hcut' h, if_neg (hother h)]
      omega
    · rw [hwhole fun hcut => (hone hcut).2 h, hwhole' fun hcut => hother hcut h, if_pos h]
      omega
  · rw [hwhole h, hwhole' fun hcut => h' (Or.inl hcut), if_neg fun hbegin => h' (Or.inr hbegin)]
    omega

end Words

/-! ### Block comments -/

section Comments

variable {body : List Char}

/-- Where no comment or literal can begin, a text is kept as it is. -/
theorem strip_append_of_not_opener (hp : ∀ c ∈ p, c ∉ ['/', '"', '\'']) (more : List Char) :
    strip (p ++ more) = p ++ strip more := by
  induction p with
  | nil => rfl
  | cons c p ih =>
      obtain ⟨hc, hp⟩ := List.forall_mem_cons.1 hp
      rw [List.cons_append, strip_of_plain (lexeme?_of_not_opener hc _), ih hp, List.cons_append]

theorem strip_of_not_opener (hp : ∀ c ∈ p, c ∉ ['/', '"', '\'']) : strip p = p := by
  have hstrip := strip_append_of_not_opener hp []
  rwa [List.append_nil, strip_nil, List.append_nil] at hstrip

/-- A block comment leaves the line feeds of its body behind. -/
theorem strip_blockComment (hp : ∀ c ∈ p, c ∉ ['/', '"', '\'']) (hs : ∀ c ∈ s, c ∉ ['/', '"', '\''])
    (hbody : occursIn ['*', '/'] body = false) :
    strip (p ++ blockComment body ++ s) = p ++ (lineFeeds body ++ s) := by
  have hcomment : IsComplete (blockComment body) := .blockComment hbody
  have hfollow : CanFollow (blockComment body) s := by
    intro hline
    exact absurd hline (by simp [blockComment])
  have hfeeds : lineFeeds (blockComment body) = lineFeeds body := by
    simp [blockComment, lineFeeds, countLineFeeds]
  rw [List.append_assoc, strip_append_of_not_opener hp, strip_of_complete hcomment hfollow, hfeeds,
    strip_of_not_opener hs]

/-- **Block comments compared with blanks.**  A block comment separates what stands around it as a
blank does if it has a line feed, or if no words meet there.  A comment on one line between words
makes one definition more if it stands inside of a word of a definition, one less if it is the only
gap in a definition or in front of one, and no difference otherwise. -/
theorem mainCount_blockComment (hp : ∀ c ∈ p, c ∉ ['/', '"', '\''])
    (hs : ∀ c ∈ s, c ∉ ['/', '"', '\'']) (hbody : occursIn ['*', '/'] body = false) :
    ('\n' ∈ body ∨ ¬ WordsMeet p s →
      mainCount (p ++ blockComment body ++ s) = mainCount (p ++ ' ' :: s)) ∧
    ('\n' ∉ body → WordsMeet p s →
      (ReachesBehind none p s →
        mainCount (p ++ blockComment body ++ s) = mainCount (p ++ ' ' :: s) + 1) ∧
      (NeedsGap p s →
        mainCount (p ++ blockComment body ++ s) + 1 = mainCount (p ++ ' ' :: s)) ∧
      (¬ ReachesBehind none p s → ¬ NeedsGap p s →
        mainCount (p ++ blockComment body ++ s) = mainCount (p ++ ' ' :: s))) := by
  have hblank : mainCount (p ++ ' ' :: s) = countDefinitions (p ++ ' ' :: s) := by
    have hall : ∀ c ∈ ' ' :: s, c ∉ ['/', '"', '\''] :=
      List.forall_mem_cons.2 ⟨by decide, hs⟩
    rw [mainCount, strip_append_of_not_opener hp, strip_of_not_opener hall]
  rw [hblank, mainCount, strip_blockComment hp hs hbody]
  have hnone : '\n' ∉ body → lineFeeds body = [] := lineFeeds_of_not_mem
  refine ⟨fun h => ?_, fun hfeed hwords => ?_⟩
  · by_cases hfeed : '\n' ∈ body
    · -- the line feeds of the comment are white space
      have hne : lineFeeds body ≠ [] := by
        rw [lineFeeds, Ne, List.replicate_eq_nil_iff, countLineFeeds]
        exact Nat.ne_of_gt (List.count_pos_iff.2 hfeed)
      have hgap : ∀ c ∈ lineFeeds body, isBlank c = true := by
        intro c hc
        rw [List.eq_of_mem_replicate hc]
        decide
      exact countDefinitionsAfter_blanks hgap hne none p s
    · rw [hnone hfeed, List.nil_append]
      exact countDefinitions_blank (h.resolve_left hfeed)
  · rw [hnone hfeed, List.nil_append]
    exact countDefinitions_words hwords

/-- A comment between the return type and the name. -/
theorem mainCount_blockComment_gap :
    (∀ c ∈ "int".toList, c ∉ ['/', '"', '\'']) ∧ (∀ c ∈ "main(".toList, c ∉ ['/', '"', '\'']) ∧
      occursIn ['*', '/'] [] = false ∧ '\n' ∉ ([] : List Char) ∧
      WordsMeet "int".toList "main(".toList ∧ NeedsGap "int".toList "main(".toList ∧
      mainCount ("int".toList ++ blockComment [] ++ "main(".toList) + 1 =
        mainCount ("int".toList ++ ' ' :: "main(".toList) := by
  have hp : ∀ c ∈ "int".toList, c ∉ ['/', '"', '\''] := by simp
  have hs : ∀ c ∈ "main(".toList, c ∉ ['/', '"', '\''] := by simp
  have hwords : WordsMeet "int".toList "main(".toList :=
    ⟨⟨'t', by decide, by decide⟩, ⟨'m', by decide, by decide⟩⟩
  have hdefinition : IsDefinition (['i', 'n', 't'] ++ ([' '] ++ (entryName ++ ([] ++ ['('])))) :=
    .intro (by decide) (by decide) (by simp [isBlank]) (by simp)
  have hgap : NeedsGap "int".toList "main(".toList :=
    Or.inl ⟨"int".toList, " main(".toList, hdefinition, by decide, by decide, ⟨[], rfl, rfl⟩,
      List.prefix_refl _⟩
  exact ⟨hp, hs, rfl, List.not_mem_nil, hwords, hgap,
    ((mainCount_blockComment hp hs rfl).2 List.not_mem_nil hwords).2.1 hgap⟩

/-- **A comment in the place of a gap** loses the definition, and one inside of a word makes one. -/
theorem commented_gap_lost :
    mainCount "int/**/main(".toList = 0 ∧ mainCount "int main(".toList = 1 ∧
      mainCount "in/**/t main(".toList = 1 ∧ mainCount "in t main(".toList = 0 := by
  decide +kernel

end Comments

end EntryTemplates.Source
