/-
**Source text with carriage returns at its line ends.**

A line may end with a line feed, or with a carriage return and a line feed.  What is looked for in a
text is indifferent to that, since both characters are white space and no word that is looked for
contains one of them.  Comments are too: they are taken out with their line ends, or up to them.
Literals are not: a backslash in front of a line feed lets a literal go on, but in front of a
carriage return it leaves the line feed bare, and there the literal breaks off.

Main definitions:

* `EntryTemplates.Source.withReturns` — a text with a carriage return in front of each line feed;
* `EntryTemplates.Source.AddsReturns` — a carriage return in front of some line feeds;
* `EntryTemplates.Source.NoLiteralSpansLines` — the texts whose literals hold no line feed.

Main results:

* `EntryTemplates.Source.AddsReturns.occursIn`, `AddsReturns.includes`, `AddsReturns.splitLines`,
  `AddsReturns.countDefinitions` — what is looked for in a text is indifferent to its line ends;
* `EntryTemplates.Source.AddsReturns.strip` — **texts whose literals hold no line feed are stripped
  alike**;
* `EntryTemplates.Source.lexeme?_withReturns_eq_none` — **a literal that holds a line feed is none
  with carriage returns**.
-/

import EntryTemplates.Proofs.Source.Alike
import EntryTemplates.Proofs.Source.Lexemes
import Mathlib.Data.Bool.AllAny

set_option relaxedAutoImplicit false
set_option autoImplicit false

namespace EntryTemplates.Source

open EntryTemplates.Text

/-- A text with a carriage return in front of each line feed. -/
def withReturns (s : List Char) : List Char := replaceChar '\n' ['\r', '\n'] s

/-- The second text is the first one, which has no carriage returns, with a carriage return in front
of some of its line feeds. -/
inductive AddsReturns : List Char → List Char → Prop where
  | nil : AddsReturns [] []
  | keep {c : Char} {s t : List Char} (hc : c ≠ '\r') (h : AddsReturns s t) :
      AddsReturns (c :: s) (c :: t)
  | add {s t : List Char} (h : AddsReturns s t) : AddsReturns ('\n' :: s) ('\r' :: '\n' :: t)

@[simp] theorem withReturns_lineFeed (s : List Char) :
    withReturns ('\n' :: s) = '\r' :: '\n' :: withReturns s := rfl

theorem withReturns_cons {c : Char} (hc : c ≠ '\n') (s : List Char) :
    withReturns (c :: s) = c :: withReturns s := by
  rw [withReturns, replaceChar, List.flatMap_cons, if_neg hc]
  rfl

theorem addsReturns_withReturns {s : List Char} (h : '\r' ∉ s) : AddsReturns s (withReturns s) := by
  induction s with
  | nil => exact .nil
  | cons c s ih =>
      obtain ⟨hc, hs⟩ := not_or.1 (List.mem_cons.not.1 h)
      by_cases hfeed : c = '\n'
      · subst hfeed
        exact .add (ih hs)
      · rw [withReturns_cons hfeed]
        exact .keep (Ne.symm hc) (ih hs)

/-! ### Words on one line, and equations for what is looked for -/

/-- A word without line ends. -/
def OnOneLine (word : List Char) : Prop := '\r' ∉ word ∧ '\n' ∉ word

instance (word : List Char) : Decidable (OnOneLine word) := inferInstanceAs (Decidable (_ ∧ _))

theorem OnOneLine.unseen {word : List Char} (h : OnOneLine word) : ∀ c ∈ word, c ∉ ['\r', '\n'] := by
  intro c hc hmem
  obtain rfl | rfl := by simpa using hmem
  · exact h.1 hc
  · exact h.2 hc

theorem splitLinesFrom_cons {c : Char} (hc : c ≠ '\r') (begun s : List Char) :
    splitLinesFrom begun (c :: s) =
      if isLineEnd c then begun.reverse :: splitLinesFrom [] s
      else splitLinesFrom (c :: begun) s := by
  rw [splitLinesFrom]
  rintro rest rfl -
  exact hc rfl

/-- A line end begins no definition. -/
theorem countDefinitionsAfter_lineEnd {c : Char} (hc : c = '\r' ∨ c = '\n') (before : Option Char)
    (rest : List Char) :
    countDefinitionsAfter before (c :: rest) = countDefinitionsAfter (some c) rest := by
  have hdefinition : definition? (c :: rest) = none := by
    obtain rfl | rfl := hc <;> rfl
  rw [countDefinitionsAfter_cons, hdefinition, ite_self]

/-! ### Where comments and literals end -/

/-- A block comment is closed by the first mark that ends it. -/
theorem isSome_closeBlock? (s : List Char) :
    (closeBlock? s).isSome = occursIn ['*', '/'] s := by
  fun_induction closeBlock? s with
  | case1 => rfl
  | case2 rest => rfl
  | case3 c rest hopen ih =>
      have hprefix : ['*', '/'].isPrefixOf (c :: rest) = false := by
        rw [Bool.eq_false_iff, Ne, List.isPrefixOf_iff_prefix]
        rintro ⟨more, hmore⟩
        obtain ⟨rfl, rfl⟩ := List.cons.inj hmore
        exact hopen _ rfl rfl
      rw [occursIn, hprefix, Bool.false_or, ← ih, extend, Option.isSome_map]

/-- The literals of a text hold no line feed. -/
def NoLiteralSpansLines (s : List Char) : Prop :=
  ∀ lexeme ∈ lexemes s, '\n' ∈ lexeme.1 → IsComment lexeme.1

instance (s : List Char) : Decidable (NoLiteralSpansLines s) :=
  inferInstanceAs (Decidable (∀ lexeme ∈ lexemes s, _))

namespace NoLiteralSpansLines

variable {s lexeme after : List Char}

theorem first (h : NoLiteralSpansLines s) (hread : lexeme? s = some (lexeme, after)) :
    '\n' ∈ lexeme → IsComment lexeme :=
  h (lexeme, after) (by rw [lexemes_of_lexeme hread]; exact List.mem_cons_self)

theorem rest (h : NoLiteralSpansLines s) (hread : lexeme? s = some (lexeme, after)) :
    NoLiteralSpansLines after := by
  rw [NoLiteralSpansLines, lexemes_of_lexeme hread] at h
  exact fun later hlater => h later (List.mem_cons_of_mem _ hlater)

theorem tail {c : Char} (h : NoLiteralSpansLines (c :: s)) (hread : lexeme? (c :: s) = none) :
    NoLiteralSpansLines s := by
  rw [NoLiteralSpansLines, lexemes_of_plain hread] at h
  exact h

end NoLiteralSpansLines

namespace AddsReturns

variable {s t x y : List Char} {c : Char}

/-! ### Taking texts apart and putting them together -/

theorem nil_left (h : AddsReturns [] t) : t = [] := by cases h; rfl

theorem cons_left (h : AddsReturns (c :: s) t) (hc : c ≠ '\n') :
    ∃ t', t = c :: t' ∧ AddsReturns s t' := by
  cases h with
  | keep _ h => exact ⟨_, rfl, h⟩
  | add => exact absurd rfl hc

theorem cons_right (h : AddsReturns s (c :: t)) (hc : c ≠ '\r') :
    ∃ s', s = c :: s' ∧ AddsReturns s' t := by
  cases h with
  | keep _ h => exact ⟨_, rfl, h⟩
  | add => exact absurd rfl hc

theorem refl (h : '\r' ∉ s) : AddsReturns s s := by
  induction s with
  | nil => exact .nil
  | cons c s ih =>
      obtain ⟨hc, hs⟩ := not_or.1 (List.mem_cons.not.1 h)
      exact .keep (Ne.symm hc) (ih hs)

theorem append (h : AddsReturns s t) (h' : AddsReturns x y) : AddsReturns (s ++ x) (t ++ y) := by
  induction h with
  | nil => exact h'
  | keep hc _ ih => exact .keep hc ih
  | add _ ih => exact .add ih

theorem append_left (h : AddsReturns (x ++ y) t) :
    ∃ x' y', t = x' ++ y' ∧ AddsReturns x x' ∧ AddsReturns y y' := by
  induction x generalizing t with
  | nil => exact ⟨[], t, rfl, .nil, h⟩
  | cons c x ih =>
      cases h with
      | keep hc h =>
          obtain ⟨x', y', rfl, hx, hy⟩ := ih h
          exact ⟨c :: x', y', rfl, .keep hc hx, hy⟩
      | add h =>
          obtain ⟨x', y', rfl, hx, hy⟩ := ih h
          exact ⟨'\r' :: '\n' :: x', y', rfl, .add hx, hy⟩

/-- A text without line feeds stays as it is. -/
theorem eq_of_not_mem (h : AddsReturns s t) (hfeed : '\n' ∉ s) : t = s := by
  induction h with
  | nil => rfl
  | keep _ _ ih => rw [ih (List.not_mem_of_not_mem_cons hfeed)]
  | add => exact absurd List.mem_cons_self hfeed

theorem lineFeeds (h : AddsReturns s t) : lineFeeds t = lineFeeds s := by
  have hcount : countLineFeeds t = countLineFeeds s := by
    induction h with
    | nil => rfl
    | keep _ _ ih => simpa only [countLineFeeds, List.count_cons, Nat.add_right_cancel_iff] using ih
    | add _ ih => simpa [countLineFeeds] using ih
  rw [Text.lineFeeds, Text.lineFeeds, hcount]

/-! ### What is looked for -/

theorem dropWhile {p : Char → Bool} (hp : p '\r' = p '\n') (h : AddsReturns s t) :
    AddsReturns (s.dropWhile p) (t.dropWhile p) := by
  induction h with
  | nil => exact .nil
  | @keep c s t hc h ih =>
      rw [List.dropWhile_cons, List.dropWhile_cons]
      split
      · exact ih
      · exact .keep hc h
  | @add s t h ih =>
      rw [List.dropWhile_cons, List.dropWhile_cons, List.dropWhile_cons, hp]
      split
      · exact ih
      · exact .add h

/-- Only carriage returns and line feeds make a difference. -/
theorem alike : Alike ['\r', '\n'] AddsReturns where
  left hc h := h.cons_left fun heq => hc (by simp [heq])
  right hc h := h.cons_right fun heq => hc (by simp [heq])
  head h := by cases h <;> rfl
  skipBlank h := h.dropWhile rfl
  skipInline h := h.dropWhile rfl

theorem isPrefixOf {word : List Char} (hword : OnOneLine word) (h : AddsReturns s t) :
    word.isPrefixOf t = word.isPrefixOf s := alike.isPrefixOf hword.unseen h

/-- **Words on one line occur alike.** -/
theorem occursIn {word : List Char} (hword : OnOneLine word) (h : AddsReturns s t) :
    occursIn word t = occursIn word s := by
  induction h with
  | nil => rfl
  | keep hc h ih => rw [Text.occursIn, Text.occursIn, (h.keep hc).isPrefixOf hword, ih]
  | @add s t h ih =>
      have hfeed : word.isPrefixOf ('\n' :: t) = word.isPrefixOf ('\n' :: s) :=
        (h.keep (by decide)).isPrefixOf hword
      rw [Text.occursIn, Text.occursIn, Text.occursIn, h.add.isPrefixOf hword, hfeed, ih,
        ← Bool.or_assoc, Bool.or_self]

theorem isBlankText (h : AddsReturns s t) : isBlankText t = isBlankText s := by
  rw [Text.isBlankText, Text.isBlankText]
  induction h with
  | nil => rfl
  | keep _ _ ih => rw [List.all_cons, List.all_cons, ih]
  | add _ ih =>
      rw [List.all_cons, List.all_cons, List.all_cons, ih]
      rfl

/-- **The lines are the same.** -/
theorem splitLines (h : AddsReturns s t) : splitLines t = splitLines s := by
  suffices hfrom : ∀ begun, splitLinesFrom begun t = splitLinesFrom begun s from hfrom []
  induction h with
  | nil => exact fun _ => rfl
  | keep hc _ ih =>
      intro begun
      rw [splitLinesFrom_cons hc, splitLinesFrom_cons hc, ih, ih]
  | add _ ih =>
      intro begun
      rw [splitLinesFrom, splitLinesFrom_cons (by decide), ih]
      rfl

/-! ### Include directives -/

theorem includesAt {header : List Char} (hheader : OnOneLine header) (h : AddsReturns s t) :
    includesAt header t = includesAt header s :=
  alike.includesAt (List.all_iff_forall_prop.1 (by decide)) (List.all_iff_forall_prop.1 (by decide))
    hheader.unseen h

/-- **Include directives are the same.** -/
theorem includes {header : List Char} (hheader : OnOneLine header) (h : AddsReturns s t) :
    includes header t = includes header s := by
  rw [Source.includes, Source.includes, h.includesAt hheader]
  congr 1
  induction h with
  | nil => rfl
  | keep _ h ih => rw [afterLineFeed, afterLineFeed, h.includesAt hheader, ih]
  | add h ih =>
      rw [afterLineFeed, afterLineFeed, afterLineFeed, h.includesAt hheader, ih]
      rfl

/-! ### Definitions of `main` -/

theorem countDefinitionsAfter (before : Option Char) (h : AddsReturns s t) :
    countDefinitionsAfter before t = countDefinitionsAfter before s := by
  have hall : (['('] :: entryName :: returnTypes).all
      (fun word => word.all (· ∉ ['\r', '\n'])) = true := by decide
  have hwords : ∀ word ∈ ['('] :: entryName :: returnTypes, ∀ c ∈ word, c ∉ ['\r', '\n'] :=
    fun word hword => List.all_iff_forall_prop.1 (List.all_eq_true.1 hall word hword)
  induction hlength : s.length using Nat.strongRecOn generalizing before s t with
  | ind n ih =>
      subst hlength
      cases h with
      | nil => rfl
      | @keep c s t hc h =>
          have hnext := ih s.length (by simp) (some c) h rfl
          rw [countDefinitionsAfter_cons, countDefinitionsAfter_cons, hnext]
          obtain ⟨hs, ht⟩ | ⟨after, after', hs, ht, h⟩ :=
            Alike.rel_cases (alike.definition? hwords (h.keep hc))
          · rw [hs, ht]
          · rw [hs, ht]
            simp only [ih after.length (definition?_length hs) (some '(') h rfl]
      | @add s t h =>
          -- neither of the two line ends begins a definition or stands in a word
          have hnext := ih s.length (by simp) (some '\n') h rfl
          rw [countDefinitionsAfter_lineEnd (by decide), countDefinitionsAfter_lineEnd (by decide),
            countDefinitionsAfter_lineEnd (by decide), hnext]

/-- **The definitions of `main` are the same in number.** -/
theorem countDefinitions (h : AddsReturns s t) : countDefinitions t = countDefinitions s :=
  h.countDefinitionsAfter none

/-! ### Comments and literals -/

/-- A literal that is not closed is not closed with carriage returns either. -/
theorem closeQuote?_eq_none {quote : Char} (hquote : quote ∉ ['\\', '\r', '\n'])
    (h : AddsReturns s t) (hs : closeQuote? quote s = none) : closeQuote? quote t = none := by
  have hreturn : quote ≠ '\r' := fun heq => hquote (by simp [heq])
  fun_induction closeQuote? quote s generalizing t with
  | case1 => rw [h.nil_left, closeQuote?]
  | case2 c rest ih =>
      have hrest := extend_eq_none.1 hs
      obtain ⟨t, rfl, hmore⟩ := h.cons_left (by decide)
      cases hmore with
      | keep _ hmore =>
          rw [closeQuote?]
          exact extend_eq_none.2 (ih hmore hrest)
      | add hmore =>
          -- the backslash takes the carriage return, and leaves the line feed bare
          rw [closeQuote?, closeQuote?_lineFeed hquote]
          rfl
  | case3 => exact absurd hs (by simp)
  | case4 c rest hescape hne hbreak =>
      cases h with
      | keep _ hmore =>
          obtain rfl | rfl := hbreak
          · exact closeQuote?_lineFeed hquote _
          · -- a backslash at the end of the text
            cases hmore with
            | nil => rw [closeQuote?, if_neg hne, if_pos (Or.inr rfl)]; simp
            | keep => exact absurd rfl (hescape _ _ rfl)
            | add => exact absurd rfl (hescape _ _ rfl)
      | add =>
          rw [closeQuote?_plain (Ne.symm hreturn) (by decide) (by decide),
            closeQuote?_lineFeed hquote]
          rfl
  | case5 c rest hescape hne hplain ih =>
      obtain ⟨hbreak, hslash⟩ := not_or.1 hplain
      obtain ⟨t, rfl, hmore⟩ := h.cons_left hbreak
      rw [closeQuote?_plain hne hslash hbreak]
      exact extend_eq_none.2 (ih hmore (extend_eq_none.1 hs))

/-- A block comment that is not closed is not closed with carriage returns either. -/
theorem closeBlock?_eq_none (h : AddsReturns s t) (hs : closeBlock? s = none) :
    closeBlock? t = none := by
  rw [← Option.not_isSome_iff_eq_none, isSome_closeBlock?] at hs ⊢
  rw [h.occursIn (by decide)]
  exact hs

/-- **No comment or literal arises from carriage returns.** -/
theorem lexeme?_eq_none (h : AddsReturns s t) (hs : lexeme? s = none) : lexeme? t = none := by
  refine alike.lexeme?_eq_none (List.all_iff_forall_prop.1 (by decide)) closeBlock?_eq_none
    (fun hquote h => ?_) h hs
  exact h.closeQuote?_eq_none (by revert hquote; simp; rintro (rfl | rfl) <;> simp)

/-- A complete comment or literal stays one, unless it is a literal that holds a line feed. -/
theorem isComplete (h : AddsReturns x y) (hx : IsComplete x) (hfeed : '\n' ∈ x → IsComment x) :
    IsComplete y := by
  by_cases hmem : '\n' ∈ x
  · have hcomment := hfeed hmem
    cases hx with
    | lineComment hbody => exact absurd hmem (by simpa using hbody)
    | @blockComment body hbody =>
        obtain ⟨y, rfl, hslash⟩ := h.cons_left (by decide)
        obtain ⟨y, rfl, hstar⟩ := hslash.cons_left (by decide)
        obtain ⟨body', last, rfl, hbody', hlast⟩ := hstar.append_left
        obtain rfl := hlast.eq_of_not_mem (by decide)
        exact .blockComment ((hbody'.occursIn (by decide)).trans hbody)
    | string => exact absurd hcomment (by simp [IsComment])
    | character => exact absurd hcomment (by simp [IsComment])
  · rw [h.eq_of_not_mem hmem]
    exact hx

/-- A line comment is taken out up to the end of its line, and with the carriage return there. -/
theorem strip_lineComment {body after : List Char} (hbody : '\n' ∉ body)
    (hfollow : CanFollow ('/' :: '/' :: body) after) (h : AddsReturns after t) :
    ∃ t', AddsReturns after t' ∧ Source.strip ('/' :: '/' :: body ++ t) = Source.strip t' := by
  have hstrip : ∀ body' t', '\n' ∉ body' → (t' = [] ∨ ∃ more, t' = '\n' :: more) →
      Source.strip ('/' :: '/' :: body' ++ t') = Source.strip t' := by
    intro body' t' hbody' hend
    rw [strip_of_complete (.lineComment hbody') fun _ => hend,
      lineFeeds_of_not_mem (by simpa using hbody'), List.nil_append]
  obtain rfl | ⟨more, rfl⟩ := hfollow ⟨body, rfl⟩
  · obtain rfl := h.nil_left
    exact ⟨[], .nil, hstrip body [] hbody (Or.inl rfl)⟩
  · cases h with
    | @keep _ _ more' _ hmore =>
        exact ⟨'\n' :: more', .keep (by decide) hmore, hstrip body _ hbody (Or.inr ⟨more', rfl⟩)⟩
    | @add _ more' hmore =>
        have hlonger : '\n' ∉ body ++ ['\r'] := by simpa using hbody
        refine ⟨'\n' :: more', .keep (by decide) hmore, ?_⟩
        rw [← hstrip (body ++ ['\r']) _ hlonger (Or.inr ⟨more', rfl⟩)]
        simp

/-- **Texts whose literals hold no line feed are stripped alike.** -/
theorem strip (h : AddsReturns s t) (hs : NoLiteralSpansLines s) :
    AddsReturns (strip s) (strip t) := by
  -- one comment or literal, or one plain character, at a time
  fun_induction Source.strip s generalizing t with
  | case1 => rw [h.nil_left]; simpa using AddsReturns.nil
  | case2 c rest lexeme after hread ih =>
      obtain ⟨heq, hcomplete, hfollow⟩ := lexeme?_eq_some.1 hread
      have hfirst := hs.first hread
      rw [heq] at h
      obtain ⟨lexeme', after', rfl, hlexeme, hafter⟩ := h.append_left
      by_cases hline : ['/', '/'] <+: lexeme
      · obtain ⟨body, rfl⟩ := hline
        have hbody : '\n' ∉ body := not_mem_lineComment hcomplete
        obtain rfl := hlexeme.eq_of_not_mem (by simpa using hbody)
        obtain ⟨t', ht', hstrip⟩ := strip_lineComment hbody hfollow hafter
        simp only [List.cons_append, List.nil_append] at hstrip ⊢
        rw [hstrip, lineFeeds_of_not_mem (by simpa using hbody), List.nil_append]
        exact ih ht' (hs.rest hread)
      · have hcomplete' : IsComplete lexeme' := hlexeme.isComplete hcomplete hfirst
        have hline' : ¬ ['/', '/'] <+: lexeme' := by
          rw [← List.isPrefixOf_iff_prefix, hlexeme.isPrefixOf (by decide),
            List.isPrefixOf_iff_prefix]
          exact hline
        have hfeeds : '\r' ∉ Text.lineFeeds lexeme := by simp [Text.lineFeeds, List.mem_replicate]
        rw [strip_of_complete hcomplete' fun hslashes => absurd hslashes hline', hlexeme.lineFeeds]
        exact (refl hfeeds).append (ih hafter (hs.rest hread))
  | case3 c rest hread ih =>
      cases h with
      | keep hc hmore =>
          rw [strip_of_plain ((hmore.keep hc).lexeme?_eq_none hread)]
          exact .keep hc (ih hmore (hs.tail hread))
      | add hmore =>
          rw [strip_of_plain rfl, strip_of_plain rfl]
          exact .add (ih hmore (hs.tail hread))

end AddsReturns

theorem IsLiteralBody.closeQuote?_withReturns {quote : Char} {body : List Char}
    (h : IsLiteralBody quote body) (hquote : quote ∉ ['\\', '\r', '\n']) (hfeed : '\n' ∈ body)
    (after : List Char) : closeQuote? quote (withReturns (body ++ after)) = none := by
  induction h with
  | nil => exact absurd hfeed List.not_mem_nil
  | @escape c body _ ih =>
      rw [List.cons_append, List.cons_append, withReturns_cons (by decide)]
      by_cases hc : c = '\n'
      · -- the backslash takes the carriage return, and leaves the line feed bare
        subst hc
        rw [withReturns_lineFeed, closeQuote?, closeQuote?_lineFeed hquote]
        rfl
      · rw [withReturns_cons hc, closeQuote?, ih (by simpa [Ne.symm hc] using hfeed)]
        rfl
  | @plain c body hne hescape hbreak _ ih =>
      have hmem : '\n' ∈ body := by simpa [Ne.symm hbreak] using hfeed
      rw [List.cons_append, withReturns_cons hbreak, closeQuote?_plain hne hescape hbreak, ih hmem]
      rfl

/-- **A literal that holds a line feed is none with carriage returns.** -/
theorem lexeme?_withReturns_eq_none {s lexeme after : List Char}
    (h : lexeme? s = some (lexeme, after)) (hfeed : '\n' ∈ lexeme) (hliteral : ¬ IsComment lexeme) :
    lexeme? (withReturns s) = none := by
  obtain ⟨rfl, hcomplete, -⟩ := lexeme?_eq_some.1 h
  cases hcomplete with
  | lineComment => exact absurd (Or.inl ⟨_, rfl⟩) hliteral
  | blockComment => exact absurd (Or.inr ⟨_, rfl⟩) hliteral
  | @string body hbody =>
      have hmem : '\n' ∈ body := by simpa using hfeed
      simp only [List.cons_append, List.append_assoc]
      rw [withReturns_cons (by decide), lexeme?, hbody.closeQuote?_withReturns (by decide) hmem]
      rfl
  | @character body hbody =>
      have hmem : '\n' ∈ body := by simpa using hfeed
      simp only [List.cons_append, List.append_assoc]
      rw [withReturns_cons (by decide), lexeme?, hbody.closeQuote?_withReturns (by decide) hmem]
      rfl

end EntryTemplates.Source
