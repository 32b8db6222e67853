/-
**Words that go on.**

A word of a text may be made longer: other characters of words are put in behind one of its letters.
If that letter stands in nothing that is looked for, a text with longer words has the same include
directives, the same definitions of `main` and the same brackets.  Only a search for the word itself
can tell the two apart, and a search for a text cannot, since the longer word still contains it.

Main definitions:

* `EntryTemplates.Source.Lengthens` — a text with some longer words.

Main results:

* `EntryTemplates.Source.Lengthens.includes` — include directives are the same;
* `EntryTemplates.Source.Lengthens.strip` — the text is stripped alike;
* `EntryTemplates.Source.Lengthens.mainCount` — **definitions of `main` are the same in number**;
* `EntryTemplates.Source.Lengthens.imbalance?` — **brackets pair up alike**;
* `EntryTemplates.Text.occursIn_append_of_isChain` — where a text cannot be found.
-/

import EntryTemplates.Proofs.Source.Alike
import EntryTemplates.Proofs.Source.LineEnds
import EntryTemplates.Proofs.Source.Separation
import EntryTemplates.Proofs.Source.Tokens
import Mathlib.Data.Bool.AllAny

set_option relaxedAutoImplicit false
set_option autoImplicit false

/-! ### Occurrences across a boundary -/

namespace EntryTemplates.Text

variable {word : List Char}

/-- An occurrence in two texts in a row lies in one of them, unless two of its characters that follow
each other may stand on the two sides of the boundary. -/
theorem occursIn_append_of_isChain {Follows : Char → Char → Prop} (hword : word.IsChain Follows)
    {p q : List Char} (hboundary : ∀ a ∈ p.getLast?, ∀ b ∈ q.head?, ¬ Follows a b) :
    occursIn word (p ++ q) = (occursIn word p || occursIn word q) := by
  rw [Bool.eq_iff_iff, Bool.or_eq_true, occursIn_iff, occursIn_iff, occursIn_iff]
  constructor
  · rintro ⟨before, after, heq⟩
    rw [List.append_assoc] at heq
    rcases List.append_eq_append_iff.1 heq with ⟨more, rfl, hq⟩ | ⟨more, rfl, hmore⟩
    · exact Or.inr ⟨more, after, by rw [hq, List.append_assoc]⟩
    · rcases List.append_eq_append_iff.1 hmore with ⟨rest, rfl, -⟩ | ⟨back, rfl, hq⟩
      · exact Or.inl ⟨before, rest, by rw [List.append_assoc]⟩
      · -- the boundary cuts the word into `more` and `back`
        cases hlast : more.getLast? with
        | none =>
            obtain rfl := List.getLast?_eq_none_iff.1 hlast
            exact Or.inr ⟨[], after, by simpa using hq⟩
        | some a =>
            cases back with
            | nil => exact Or.inl ⟨before, [], by simp⟩
            | cons b back =>
                have hfollows := (List.isChain_append.1 hword).2.2 a hlast b rfl
                exact absurd hfollows (hboundary a (by simp [hlast]) b (by simp [hq]))
  · rintro (⟨before, after, rfl⟩ | ⟨before, after, rfl⟩)
    · exact ⟨before, after ++ q, by simp⟩
    · exact ⟨p ++ before, after, by simp⟩

/-- A character that is not the last one of a word ends none of its occurrences. -/
theorem occursIn_concat {c : Char} (hc : word.getLast? ≠ some c) (hne : word ≠ [])
    (p : List Char) : occursIn word (p ++ [c]) = occursIn word p := by
  rw [Bool.eq_iff_iff, occursIn_iff, occursIn_iff]
  constructor
  · rintro ⟨before, after, heq⟩
    rcases List.eq_nil_or_concat after with rfl | ⟨after, d, rfl⟩
    · have hlast := congrArg List.getLast? heq
      rw [List.append_nil, List.getLast?_append_of_ne_nil _ hne, List.getLast?_concat] at hlast
      exact absurd hlast.symm hc
    · rw [List.concat_eq_append, ← List.append_assoc] at heq
      exact ⟨before, after, (List.append_inj' heq rfl).1⟩
  · rintro ⟨before, after, rfl⟩
    exact ⟨before, after ++ [c], by simp⟩

/-- A character that does not stand in a word is no part of its occurrences. -/
theorem occursIn_append_cons {c : Char} (hc : c ∉ word) (hne : word ≠ []) (p q : List Char) :
    occursIn word (p ++ c :: q) = (occursIn word p || occursIn word q) := by
  have hchain : word.IsChain fun a b => a ≠ c ∧ b ≠ c := by
    refine (List.isChain_isInfix word).imp fun a b hab => ?_
    exact ⟨ne_of_mem_of_not_mem (hab.subset (by simp)) hc,
      ne_of_mem_of_not_mem (hab.subset (by simp)) hc⟩
  have hone : occursIn word [c] = false := by
    rw [← Bool.not_eq_true, occursIn_iff]
    rintro ⟨before, after, heq⟩
    obtain ⟨d, word, rfl⟩ := List.exists_cons_of_ne_nil hne
    have hmem : d ∈ [c] := by rw [heq]; simp
    exact hc (by simp [List.mem_singleton.1 hmem])
  rw [occursIn_append_of_isChain hchain fun a _ b hb hfollows => hfollows.2 (by simpa using hb.symm),
    ← List.singleton_append, occursIn_append_of_isChain hchain fun a ha b _ hfollows =>
      hfollows.1 (by simpa using ha.symm), hone, Bool.false_or]

end EntryTemplates.Text

namespace EntryTemplates.Source

open EntryTemplates.Text

/-! ### Longer words -/

/-- The second text is the first one with `more` put in behind some of its letters `last`. -/
inductive Lengthens (last : Char) (more : List Char) : List Char → List Char → Prop where
  | nil : Lengthens last more [] []
  | keep {c : Char} {s t : List Char} (h : Lengthens last more s t) :
      Lengthens last more (c :: s) (c :: t)
  | add {s t : List Char} (h : Lengthens last more s t) :
      Lengthens last more (last :: s) (last :: (more ++ t))

/-- Words go on with characters of words. -/
structure GoesOnWith (last : Char) (more : List Char) : Prop where
  last : isWord last = true
  more : ∀ c ∈ more, isWord c = true

namespace Lengthens

variable {last c : Char} {more s t x y : List Char}

theorem refl (s : List Char) : Lengthens last more s s := by
  induction s with
  | nil => exact .nil
  | cons c s ih => exact .keep ih

theorem append (h : Lengthens last more s t) (h' : Lengthens last more x y) :
    Lengthens last more (s ++ x) (t ++ y) := by
  induction h with
  | nil => exact h'
  | keep _ ih => exact .keep ih
  | add _ ih =>
      rw [List.cons_append, List.cons_append, List.append_assoc]
      exact .add ih

/-- One word made longer. -/
theorem one (before after : List Char) :
    Lengthens last more (before ++ last :: after) (before ++ last :: (more ++ after)) :=
  (refl before).append (.add (refl after))

theorem nil_left (h : Lengthens last more [] t) : t = [] := by cases h; rfl

theorem cons_left (hc : c ≠ last) (h : Lengthens last more (c :: s) t) :
    ∃ t', t = c :: t' ∧ Lengthens last more s t' := by
  cases h with
  | keep h => exact ⟨_, rfl, h⟩
  | add => exact absurd rfl hc

theorem cons_right (hc : c ≠ last) (h : Lengthens last more s (c :: t)) :
    ∃ s', s = c :: s' ∧ Lengthens last more s' t := by
  cases h with
  | keep h => exact ⟨_, rfl, h⟩
  | add => exact absurd rfl hc

theorem append_left (h : Lengthens last more (x ++ y) t) :
    ∃ x' y', t = x' ++ y' ∧ Lengthens last more x x' ∧ Lengthens last more y y' := by
  induction x generalizing t with
  | nil => exact ⟨[], t, rfl, .nil, h⟩
  | cons c x ih =>
      cases h with
      | keep h =>
          obtain ⟨x', y', rfl, hx, hy⟩ := ih h
          exact ⟨c :: x', y', rfl, .keep hx, hy⟩
      | add h =>
          obtain ⟨x', y', rfl, hx, hy⟩ := ih h
          exact ⟨_, y', by rw [List.cons_append, List.append_assoc], .add hx, hy⟩

theorem dropWhile {p : Char → Bool} (hp : p last = false) (h : Lengthens last more s t) :
    Lengthens last more (s.dropWhile p) (t.dropWhile p) := by
  induction h with
  | nil => exact .nil
  | keep h ih =>
      rw [List.dropWhile_cons, List.dropWhile_cons]
      split
      · exact ih
      · exact .keep h
  | add h =>
      rw [List.dropWhile_cons, List.dropWhile_cons, hp]
      exact .add h

end Lengthens

namespace GoesOnWith

variable {last c : Char} {more s t x y word : List Char}

theorem isBlank_last (hw : GoesOnWith last more) : isBlank last = false := by
  by_contra hblank
  have hword := hw.last
  rw [isWord_of_isBlank (by simpa using hblank)] at hword
  cases hword

/-- Only the letter that words go on behind makes a difference. -/
theorem alike (hw : GoesOnWith last more) : Alike [last] (Lengthens last more) where
  left hc h := h.cons_left (by simpa using hc)
  right hc h := h.cons_right (by simpa using hc)
  head h := by cases h <;> rfl
  skipBlank h := h.dropWhile hw.isBlank_last
  skipInline h := by
    refine h.dropWhile (Bool.eq_false_iff.2 fun hinline => ?_)
    have hblank := hw.isBlank_last
    obtain rfl | rfl := by simpa [isInlineBlank] using hinline
    · exact absurd hblank (by decide)
    · exact absurd hblank (by decide)

theorem ne_last (hw : GoesOnWith last more) (hc : isWord c = false) : c ≠ last := by
  rintro rfl
  rw [hw.last] at hc
  cases hc

theorem not_mem_more (hw : GoesOnWith last more) (hc : isWord c = false) : c ∉ more := by
  intro hmem
  rw [hw.more c hmem] at hc
  cases hc

theorem isWord_of_mem (hw : GoesOnWith last more) (hc : c ∈ last :: more) : isWord c = true := by
  rcases List.mem_cons.1 hc with rfl | hc
  · exact hw.last
  · exact hw.more c hc

theorem not_opener (hw : GoesOnWith last more) : ∀ c ∈ last :: more, c ∉ ['/', '"', '\''] := by
  intro c hc hmem
  refine (isBare_iff.1 (isBare_of_isWord (hw.isWord_of_mem hc))).1 ?_
  revert hmem
  simp only [List.mem_cons, List.not_mem_nil, or_false]
  rintro (rfl | rfl | rfl) <;> simp

/-- Characters of no word are counted alike. -/
theorem mem_iff (hw : GoesOnWith last more) (hc : isWord c = false) (h : Lengthens last more s t) :
    c ∈ t ↔ c ∈ s := by
  induction h with
  | nil => exact Iff.rfl
  | keep _ ih => rw [List.mem_cons, List.mem_cons, ih]
  | add _ ih =>
      rw [List.mem_cons, List.mem_cons, List.mem_append, ih, or_iff_right (hw.not_mem_more hc)]

theorem lineFeeds (hw : GoesOnWith last more) (h : Lengthens last more s t) :
    lineFeeds t = lineFeeds s := by
  have hcount : countLineFeeds t = countLineFeeds s := by
    induction h with
    | nil => rfl
    | keep _ ih => simpa only [countLineFeeds, List.count_cons, Nat.add_right_cancel_iff] using ih
    | add _ ih =>
        have hmore : more.count '\n' = 0 :=
          List.count_eq_zero_of_not_mem (hw.not_mem_more (by decide))
        simpa only [countLineFeeds, List.count_cons, List.count_append, hmore, Nat.zero_add,
          Nat.add_right_cancel_iff] using ih
  rw [Text.lineFeeds, Text.lineFeeds, hcount]

/-! ### Include directives -/

/-- **Include directives are the same.** -/
theorem includes {header : List Char} (hw : GoesOnWith last more)
    (hlast : last ∉ "include".toList ++ header) (h : Lengthens last more s t) :
    includes header t = includes header s := by
  have hletters : ∀ c ∈ "include".toList ++ header, c ∉ [last] := by
    intro c hc hmem
    rw [List.mem_singleton.1 hmem] at hc
    exact hlast hc
  obtain ⟨hinclude, hheader⟩ := List.forall_mem_append.1 hletters
  have hother : ∀ c ∈ ['#', '<', '>', '"'], c ∉ [last] := by
    have hplain : ∀ c ∈ ['#', '<', '>', '"'], isWord c = false :=
      List.all_iff_forall_prop.1 (by decide)
    intro c hc hmem
    exact hw.ne_last (hplain c hc) (List.mem_singleton.1 hmem)
  have hdirective : ∀ c ∈ '#' :: "include".toList, c ∉ [last] :=
    List.forall_mem_cons.2 ⟨hother '#' (by decide), hinclude⟩
  have hat : ∀ {s t}, Lengthens last more s t → includesAt header t = includesAt header s :=
    fun h => hw.alike.includesAt (fun c hc => hother c (List.mem_cons_of_mem _ hc)) hdirective
      hheader h
  have hmore : ∀ (holds : List Char → Bool) (word rest : List Char), '\n' ∉ word →
      afterLineFeed holds (word ++ rest) = afterLineFeed holds rest := by
    intro holds word rest hword
    induction word with
    | nil => rfl
    | cons c word ih =>
        obtain ⟨hc, hword⟩ := not_or.1 (List.mem_cons.not.1 hword)
        rw [List.cons_append, afterLineFeed, ih hword, decide_eq_false (Ne.symm hc)]
        rfl
  rw [Source.includes, Source.includes, hat h]
  congr 1
  induction h with
  | nil => rfl
  | keep h ih => rw [afterLineFeed, afterLineFeed, hat h, ih]
  | @add s t h ih =>
      have hfeed : last ≠ '\n' := (hw.ne_last (by decide)).symm
      have hlonger : '\n' ∉ last :: more := by
        simpa using ⟨hfeed.symm, hw.not_mem_more (by decide)⟩
      rw [← List.cons_append, hmore _ _ _ hlonger, ih, afterLineFeed, decide_eq_false hfeed]
      rfl

/-! ### Definitions of `main` -/

/-- **The definitions of `main` are the same in number.** -/
theorem countDefinitionsAfter (hw : GoesOnWith last more)
    (hlast : ∀ word ∈ entryName :: returnTypes, last ∉ word) (before : Option Char)
    (h : Lengthens last more s t) :
    countDefinitionsAfter before t = countDefinitionsAfter before s := by
  have hwords : ∀ word ∈ ['('] :: entryName :: returnTypes, ∀ c ∈ word, c ∉ [last] := by
    intro word hword c hc hmem
    obtain rfl := List.mem_singleton.1 hmem
    rcases List.mem_cons.1 hword with rfl | hword
    · exact hw.ne_last (by decide) (List.mem_singleton.1 hc).symm
    · exact hlast word hword hc
  induction h generalizing before with
  | nil => rfl
  | @keep c s t h ih =>
      have hread : (definition? (c :: t)).isSome = (definition? (c :: s)).isSome := by
        obtain ⟨hs, ht⟩ | ⟨rest, rest', hs, ht, -⟩ :=
          Alike.rel_cases (hw.alike.definition? hwords h.keep)
        · rw [hs, ht]
        · rw [hs, ht]
          rfl
      have hbegins : Begins before (c :: t) ↔ Begins before (c :: s) := by
        rw [Begins, Begins, hread]
      simp only [countDefinitionsAfter_step, ih, hbegins]
  | @add s t h ih =>
      have hnot : ∀ rest, ¬ Begins before (last :: rest) := by
        refine fun rest => not_begins_of_head fun hmem => ?_
        obtain rfl | rfl := by simpa using hmem
        · exact hlast "int".toList (by decide) (by decide)
        · exact hlast "auto".toList (by decide) (by decide)
      have hchain : (last :: more).IsChain Continues := by
        refine (List.isChain_isInfix _).imp fun a b hab => Or.inl ?_
        exact hw.isWord_of_mem (hab.subset List.mem_cons_self)
      have hend : wordCanBegin (last :: more).getLast? = wordCanBegin (some last) := by
        cases hlast : (last :: more).getLast? with
        | none => exact absurd (List.getLast?_eq_none_iff.1 hlast) (by simp)
        | some a =>
            rw [wordCanBegin, wordCanBegin, hw.isWord_of_mem (List.mem_of_getLast? hlast), hw.last]
      rw [countDefinitionsAfter_of_not_begins (hnot _), countDefinitionsAfter_of_not_begins (hnot _),
        countDefinitionsAfter_of_isChain hchain, countDefinitionsAfter_congr hend, ih]

/-! ### Comments and literals -/

/-- **Words without the letter, and without characters of words, occur alike.** -/
theorem occursIn (hw : GoesOnWith last more) (hword : ∀ c ∈ word, isWord c = false)
    (hne : word ≠ []) (h : Lengthens last more s t) : occursIn word t = occursIn word s := by
  have hunseen : ∀ c ∈ word, c ∉ [last] := fun c hc hmem =>
    hw.ne_last (hword c hc) (List.mem_singleton.1 hmem)
  have hmore : ∀ {w : List Char} (rest : List Char), (∀ c ∈ w, c ∉ word) →
      Text.occursIn word (w ++ rest) = Text.occursIn word rest := by
    intro w rest hw
    induction w with
    | nil => rfl
    | cons c w ih =>
        obtain ⟨hc, hw⟩ := List.forall_mem_cons.1 hw
        obtain ⟨d, word, rfl⟩ := List.exists_cons_of_ne_nil hne
        have hprefix : (d :: word).isPrefixOf (c :: (w ++ rest)) = false := by
          rw [List.isPrefixOf, beq_eq_false_iff_ne.2 fun heq => hc (by simp [heq]), Bool.false_and]
        rw [List.cons_append, Text.occursIn, hprefix, ih hw, Bool.false_or]
  have hnot : ∀ c ∈ last :: more, c ∉ word := fun c hc hmem =>
    absurd (hw.isWord_of_mem hc) (by simp [hword c hmem])
  induction h with
  | nil => rfl
  | keep h ih => rw [Text.occursIn, Text.occursIn, hw.alike.isPrefixOf hunseen h.keep, ih]
  | @add s t _ ih =>
      have hone : ∀ c ∈ [last], c ∉ word := fun c hc => hnot c (List.mem_singleton.1 hc ▸ by simp)
      rw [← List.cons_append, hmore t hnot, ih]
      exact (hmore s hone).symm

theorem occursIn_blockEnd (hw : GoesOnWith last more) (h : Lengthens last more s t) :
    Text.occursIn ['*', '/'] t = Text.occursIn ['*', '/'] s :=
  hw.occursIn (List.all_iff_forall_prop.1 (by decide)) (by simp) h

theorem closeBlock?_eq_none (hw : GoesOnWith last more) (h : Lengthens last more s t)
    (hs : closeBlock? s = none) : closeBlock? t = none := by
  rw [← Option.not_isSome_iff_eq_none, isSome_closeBlock?] at hs ⊢
  rw [hw.occursIn_blockEnd h]
  exact hs

/-- Longer words close no literal. -/
theorem closeQuote?_more {quote : Char} (hw : GoesOnWith last more) (hquote : isWord quote = false)
    {rest : List Char} (hrest : closeQuote? quote rest = none) :
    closeQuote? quote (more ++ rest) = none := by
  have hmore := hw.more
  clear hw
  induction more with
  | nil => exact hrest
  | cons c more ih =>
      obtain ⟨hc, hmore⟩ := List.forall_mem_cons.1 hmore
      have hne : ∀ d, isWord d = false → c ≠ d := by
        rintro d hd rfl
        rw [hc] at hd
        cases hd
      rw [List.cons_append, closeQuote?_plain (hne quote hquote) (hne _ (by decide))
        (hne _ (by decide))]
      exact extend_eq_none.2 (ih hmore)

theorem closeQuote?_eq_none {quote : Char} (hw : GoesOnWith last more)
    (hquote : quote ∈ ['"', '\'']) (h : Lengthens last more s t)
    (hs : closeQuote? quote s = none) : closeQuote? quote t = none := by
  have hplain : isWord quote = false := by
    have hall : ∀ c ∈ ['"', '\''], isWord c = false := List.all_iff_forall_prop.1 (by decide)
    exact hall quote hquote
  have hslash : '\\' ≠ last := hw.ne_last (by decide)
  fun_induction closeQuote? quote s generalizing t with
  | case1 => rw [h.nil_left, closeQuote?]
  | case2 c rest ih =>
      have hrest := extend_eq_none.1 hs
      obtain ⟨t, rfl, hmore⟩ := h.cons_left hslash
      cases hmore with
      | keep hmore =>
          rw [closeQuote?]
          exact extend_eq_none.2 (ih hmore hrest)
      | add hmore =>
          rw [closeQuote?]
          exact extend_eq_none.2 (hw.closeQuote?_more hplain (ih hmore hrest))
  | case3 => exact absurd hs (by simp)
  | case4 c rest hescape hne hbreak =>
      obtain rfl | rfl := hbreak
      · obtain ⟨t, rfl, -⟩ := h.cons_left (hw.ne_last (by decide))
        refine closeQuote?_lineFeed (fun hmem => ?_) t
        revert hquote hmem
        simp only [List.mem_cons, List.not_mem_nil, or_false]
        rintro (rfl | rfl) <;> decide
      · -- a backslash at the end of the text
        obtain ⟨t, rfl, hmore⟩ := h.cons_left hslash
        cases hmore with
        | nil => rw [closeQuote?, if_neg hne, if_pos (Or.inr rfl)]; simp
        | keep => exact absurd rfl (hescape _ _ rfl)
        | add => exact absurd rfl (hescape _ _ rfl)
  | case5 c rest hescape hne hother ih =>
      obtain ⟨hbreak, hback⟩ := not_or.1 hother
      have hrest := extend_eq_none.1 hs
      cases h with
      | keep h =>
          rw [closeQuote?_plain hne hback hbreak]
          exact extend_eq_none.2 (ih h hrest)
      | add h =>
          rw [closeQuote?_plain hne hback hbreak]
          exact extend_eq_none.2 (hw.closeQuote?_more hplain (ih h hrest))

/-- **No comment or literal arises from longer words.** -/
theorem lexeme?_eq_none (hw : GoesOnWith last more) (h : Lengthens last more s t)
    (hs : lexeme? s = none) : lexeme? t = none := by
  have hopeners : ∀ c ∈ ['/', '*', '"', '\''], c ∉ [last] := by
    have hplain : ∀ c ∈ ['/', '*', '"', '\''], isWord c = false :=
      List.all_iff_forall_prop.1 (by decide)
    intro c hc hmem
    exact hw.ne_last (hplain c hc) (List.mem_singleton.1 hmem)
  exact hw.alike.lexeme?_eq_none hopeners hw.closeBlock?_eq_none hw.closeQuote?_eq_none h hs

theorem isLiteralBody {quote : Char} (hw : GoesOnWith last more) (hquote : quote ∈ ['"', '\''])
    (hx : IsLiteralBody quote x) (h : Lengthens last more x y) : IsLiteralBody quote y := by
  have hmore : ∀ {rest : List Char}, IsLiteralBody quote rest →
      IsLiteralBody quote (more ++ rest) := by
    have hplain : ∀ c ∈ ['"', '\'', '\\', '\n'], isWord c = false :=
      List.all_iff_forall_prop.1 (by decide)
    have hgoesOn := hw.more
    clear hw h
    intro rest hrest
    induction more with
    | nil => exact hrest
    | cons c more ih =>
        obtain ⟨hc, hgoesOn⟩ := List.forall_mem_cons.1 hgoesOn
        have hne : ∀ d ∈ ['"', '\'', '\\', '\n'], c ≠ d := by
          rintro d hd rfl
          rw [hplain c hd] at hc
          cases hc
        have hmem : quote ∈ ['"', '\'', '\\', '\n'] := List.mem_append_left ['\\', '\n'] hquote
        exact .plain (hne quote hmem) (hne '\\' (by decide)) (hne '\n' (by decide)) (ih hgoesOn)
  induction hx generalizing y with
  | nil => rw [h.nil_left]; exact .nil
  | escape c _ ih =>
      obtain ⟨y, rfl, hescaped⟩ := h.cons_left (hw.ne_last (by decide))
      cases hescaped with
      | keep hrest => exact .escape c (ih hrest)
      | add hrest => exact .escape _ (hmore (ih hrest))
  | plain hne hescape hbreak _ ih =>
      cases h with
      | keep h => exact .plain hne hescape hbreak (ih h)
      | add h => exact .plain hne hescape hbreak (hmore (ih h))

/-- A complete comment or literal stays one. -/
theorem isComplete (hw : GoesOnWith last more) (hx : IsComplete x) (h : Lengthens last more x y) :
    IsComplete y := by
  have hslash : '/' ≠ last := hw.ne_last (by decide)
  have hend : ∀ {c : Char} {z : List Char}, isWord c = false → Lengthens last more [c] z →
      z = [c] := by
    intro c z hc hz
    obtain ⟨z, rfl, hnil⟩ := hz.cons_left (hw.ne_last hc)
    rw [hnil.nil_left]
  cases hx with
  | lineComment hbody =>
      obtain ⟨y, rfl, hline⟩ := h.cons_left hslash
      obtain ⟨y, rfl, hbody'⟩ := hline.cons_left hslash
      exact .lineComment fun hmem => hbody ((hw.mem_iff (by decide) hbody').1 hmem)
  | blockComment hbody =>
      obtain ⟨y, rfl, hblock⟩ := h.cons_left hslash
      obtain ⟨y, rfl, hrest⟩ := hblock.cons_left (hw.ne_last (by decide))
      obtain ⟨body, mark, rfl, hbody', hmark⟩ := hrest.append_left
      obtain ⟨mark, rfl, hmark'⟩ := hmark.cons_left (hw.ne_last (by decide))
      obtain rfl := hend (by decide) hmark'
      exact .blockComment ((hw.occursIn_blockEnd hbody').trans hbody)
  | string hbody =>
      obtain ⟨y, rfl, hrest⟩ := h.cons_left (hw.ne_last (by decide))
      obtain ⟨body, mark, rfl, hbody', hmark⟩ := hrest.append_left
      obtain rfl := hend (by decide) hmark
      exact .string (hw.isLiteralBody (by decide) hbody hbody')
  | character hbody =>
      obtain ⟨y, rfl, hrest⟩ := h.cons_left (hw.ne_last (by decide))
      obtain ⟨body, mark, rfl, hbody', hmark⟩ := hrest.append_left
      obtain rfl := hend (by decide) hmark
      exact .character (hw.isLiteralBody (by decide) hbody hbody')

/-- What can stand behind a comment or literal still can. -/
theorem canFollow (hw : GoesOnWith last more) (hfollow : CanFollow x s)
    (h : Lengthens last more x y) (h' : Lengthens last more s t) : CanFollow y t := by
  intro hline
  have hslash : '/' ≠ last := hw.ne_last (by decide)
  obtain ⟨rest, rfl⟩ := hline
  obtain ⟨x, rfl, hrest⟩ := h.cons_right hslash
  obtain ⟨x, rfl, -⟩ := hrest.cons_right hslash
  obtain rfl | ⟨s, rfl⟩ := hfollow ⟨x, rfl⟩
  · exact Or.inl h'.nil_left
  · obtain ⟨t, rfl, -⟩ := h'.cons_left (hw.ne_last (by decide))
    exact Or.inr ⟨t, rfl⟩

/-- **Texts with longer words are stripped alike.** -/
theorem strip (hw : GoesOnWith last more) (h : Lengthens last more s t) :
    Lengthens last more (strip s) (strip t) := by
  -- one comment or literal, or one plain character, at a time
  fun_induction Source.strip s generalizing t with
  | case1 => rw [h.nil_left, strip_nil]; exact .nil
  | case2 c rest lexeme after hread ih =>
      obtain ⟨heq, hcomplete, hfollow⟩ := lexeme?_eq_some.1 hread
      rw [heq] at h
      obtain ⟨lexeme', after', rfl, hlexeme, hafter⟩ := h.append_left
      rw [strip_of_complete (hw.isComplete hcomplete hlexeme)
        (hw.canFollow hfollow hlexeme hafter), hw.lineFeeds hlexeme]
      exact (Lengthens.refl _).append (ih hafter)
  | case3 c rest hread ih =>
      cases h with
      | keep h =>
          rw [strip_of_plain (hw.lexeme?_eq_none h.keep hread)]
          exact .keep (ih h)
      | @add _ t h =>
          rw [← List.cons_append, strip_append_of_not_opener hw.not_opener]
          exact .add (ih h)

/-- **The definitions of `main` outside comments and literals are the same in number.** -/
theorem mainCount (hw : GoesOnWith last more) (hlast : ∀ word ∈ entryName :: returnTypes, last ∉ word)
    (h : Lengthens last more s t) : mainCount t = mainCount s :=
  hw.countDefinitionsAfter hlast none (hw.strip h)

/-! ### Brackets -/

theorem isLineEnd_of_mem (hw : GoesOnWith last more) (hc : c ∈ last :: more) :
    isLineEnd c = false := by
  have hblank : ∀ c, isLineEnd c = true → isBlank c = true := by
    intro c hc
    simp only [isLineEnd, isBlank, Bool.or_eq_true, Bool.and_eq_true, decide_eq_true_eq,
      beq_iff_eq] at hc ⊢
    omega
  by_contra hend
  have hword := hw.isWord_of_mem hc
  rw [isWord_of_isBlank (hblank c (by simpa using hend))] at hword
  cases hword

theorem isBracket_of_mem (hw : GoesOnWith last more) (hc : c ∈ last :: more) :
    isBracket c = false := (isBare_iff.1 (isBare_of_isWord (hw.isWord_of_mem hc))).2

/-- Characters that end no line go on with it. -/
theorem splitLinesFrom_append (begun rest : List Char) (hx : ∀ c ∈ x, isLineEnd c = false) :
    splitLinesFrom begun (x ++ rest) = splitLinesFrom (x.reverse ++ begun) rest := by
  induction x generalizing begun with
  | nil => rfl
  | cons c x ih =>
      obtain ⟨hc, hx⟩ := List.forall_mem_cons.1 hx
      have hreturn : c ≠ '\r' := by
        rintro rfl
        exact absurd hc (by decide)
      rw [List.cons_append, splitLinesFrom_cons hreturn, if_neg (by simp [hc]), ih _ hx]
      simp

theorem splitLinesFrom_single {begun : List Char}
    (hpair : ∀ rest, c = '\r' → s = '\n' :: rest → False) : splitLinesFrom begun (c :: s) =
      if isLineEnd c then begun.reverse :: splitLinesFrom [] s
      else splitLinesFrom (c :: begun) s := by
  rw [splitLinesFrom]
  exact hpair

theorem not_pair (hw : GoesOnWith last more) (h : Lengthens last more s t)
    (hpair : ∀ rest, c = '\r' → s = '\n' :: rest → False) :
    ∀ rest, c = '\r' → t = '\n' :: rest → False := by
  rintro rest rfl rfl
  obtain ⟨s, rfl, -⟩ := h.cons_right (hw.ne_last (by decide))
  exact hpair s rfl rfl

/-- The brackets of each line are the same. -/
theorem map_splitLinesFrom (hw : GoesOnWith last more) (h : Lengthens last more s t)
    {begun begun' : List Char} (hbegun : begun'.filter isBracket = begun.filter isBracket)
    (hempty : begun' = [] ↔ begun = []) :
    (splitLinesFrom begun' t).map (·.filter isBracket) =
      (splitLinesFrom begun s).map (·.filter isBracket) := by
  have hline : ∀ {u v : List Char}, v.filter isBracket = u.filter isBracket →
      v.reverse.filter isBracket = u.reverse.filter isBracket := by
    intro u v huv
    rw [List.filter_reverse, List.filter_reverse, huv]
  fun_induction splitLinesFrom begun s generalizing t begun' with
  | case1 begun hnil =>
      obtain rfl := h.nil_left
      rw [splitLinesFrom, if_pos (by simpa [hempty] using hnil)]
  | case2 begun hne =>
      obtain rfl := h.nil_left
      rw [splitLinesFrom, if_neg (by simpa [hempty] using hne), List.map_singleton,
        List.map_singleton, hline hbegun]
  | case3 begun rest ih =>
      obtain ⟨t, rfl, hreturn⟩ := h.cons_left (hw.ne_last (by decide))
      obtain ⟨t, rfl, hrest⟩ := hreturn.cons_left (hw.ne_last (by decide))
      rw [splitLinesFrom, List.map_cons, List.map_cons, hline hbegun,
        ih hrest rfl Iff.rfl]
  | case4 begun c rest hpair hend ih =>
      cases h with
      | @keep _ _ t h =>
          rw [splitLinesFrom_single (hw.not_pair h hpair), if_pos hend, List.map_cons, List.map_cons,
            hline hbegun, ih h rfl Iff.rfl]
      | add => exact absurd hend (by simp [hw.isLineEnd_of_mem List.mem_cons_self])
  | case5 begun c rest hpair hend ih =>
      cases h with
      | @keep _ _ t h =>
          have hnext : (c :: begun').filter isBracket = (c :: begun).filter isBracket := by
            rw [List.filter_cons, List.filter_cons, hbegun]
          rw [splitLinesFrom_single (hw.not_pair h hpair), if_neg hend, ih h hnext (by simp)]
      | @add _ t h =>
          have hnone : (last :: more).filter isBracket = [] :=
            List.filter_eq_nil_iff.2 fun d hd => by simp [hw.isBracket_of_mem hd]
          have hnext : ((last :: more).reverse ++ begun').filter isBracket =
              (last :: begun).filter isBracket := by
            rw [List.filter_append, List.filter_reverse, hnone, hbegun,
              List.filter_cons_of_neg (by simp [hw.isBracket_of_mem List.mem_cons_self])]
            rfl
          rw [← List.cons_append, splitLinesFrom_append _ _ fun d hd => hw.isLineEnd_of_mem hd,
            ih h hnext (by simp)]

theorem pairUp_map (n : Nat) (stack : List Char) (lines : List (List Char)) :
    pairUp n stack (lines.map (·.filter isBracket)) = pairUp n stack lines := by
  induction lines generalizing n stack with
  | nil => rfl
  | cons line lines ih =>
      rw [List.map_cons, pairUp, pairUp, pairLine_filter]
      cases pairLine n stack line with
      | ok stack' => exact ih _ _
      | error problem => rfl

/-- **Brackets pair up alike**, and are reported on the same lines. -/
theorem imbalance? (hw : GoesOnWith last more) (h : Lengthens last more s t) :
    imbalance? t = imbalance? s := by
  have hnone : ([] : List Char).filter isBracket = [] := rfl
  have hlines := hw.map_splitLinesFrom (hw.strip h) hnone Iff.rfl
  rw [Source.imbalance?, Source.imbalance?, ← pairUp_map, splitLines, hlines, pairUp_map]
  rfl

end GoesOnWith

end EntryTemplates.Source
