/-
**Comments and literals leave nothing but line feeds.**

Stripping reads a text from left to right, so what it does with a comment or a literal depends on
where the text before it ends.  A text ends in code if no opener is left open in it and nothing of
it can become the beginning of one.  Such a text is stripped in the same way whatever follows it, a
complete comment or literal behind it is taken out whole whatever stands inside, and reading starts
afresh behind that.

* `Source.IsLiteralBody`, `Source.IsComplete` — complete comments and literals;
* `Source.CanFollow` — what can stand behind one of them;
* `Source.EndsInCode` — texts that end outside comments and literals;
* `Source.lexeme?_eq_some` — **what is read are the complete comments and literals**;
* `Source.strip_append` — **a text that ends in code is stripped on its own**;
* `Source.strip_complete` — **what stands inside a comment or literal has no influence**.
-/

import EntryTemplates.Source.Brackets
import EntryTemplates.Source.Definitions
import EntryTemplates.Text.Search
import Mathlib.Data.List.TakeWhile

set_option relaxedAutoImplicit false
set_option autoImplicit false

namespace EntryTemplates.Source

open EntryTemplates.Text

/-! ### Complete comments and literals -/

/-- What stands between two quotes: characters behind a backslash, and plain ones, which are no
quote of this kind, no backslash and no line feed. -/
inductive IsLiteralBody (quote : Char) : List Char → Prop where
  | nil : IsLiteralBody quote []
  | escape (c : Char) {body : List Char} (hbody : IsLiteralBody quote body) :
      IsLiteralBody quote ('\\' :: c :: body)
  | plain {c : Char} {body : List Char} (hquote : c ≠ quote) (hescape : c ≠ '\\')
      (hbreak : c ≠ '\n') (hbody : IsLiteralBody quote body) : IsLiteralBody quote (c :: body)

/-- A complete comment or literal. -/
inductive IsComplete : List Char → Prop where
  | lineComment {body : List Char} (hbody : '\n' ∉ body) : IsComplete ('/' :: '/' :: body)
  | blockComment {body : List Char} (hbody : occursIn ['*', '/'] body = false) :
      IsComplete ('/' :: '*' :: body ++ ['*', '/'])
  | string {body : List Char} (hbody : IsLiteralBody '"' body) : IsComplete ('"' :: body ++ ['"'])
  | character {body : List Char} (hbody : IsLiteralBody '\'' body) :
      IsComplete ('\'' :: body ++ ['\''])

/-- What can stand behind a comment or literal: a line comment goes on up to the end of its line. -/
def CanFollow (token after : List Char) : Prop :=
  ['/', '/'] <+: token → after = [] ∨ ∃ more, after = '\n' :: more

/-- The text ends in code: it does not end with a slash, a letter behind it is kept as it is, and no
opener of a literal or of a block comment is left in what remains of it. -/
structure EndsInCode (p : List Char) : Prop where
  noSlash : p.getLast? ≠ some '/'
  keepsLetter : strip (p ++ ['x']) = strip p ++ ['x']
  noString : '"' ∉ strip p
  noCharacter : '\'' ∉ strip p
  noBlock : occursIn ['/', '*'] (strip p) = false

/-! ### Reading one comment or literal -/

section Literal

variable {quote : Char} {s closed after : List Char}

theorem closeQuote?_quote (hquote : quote ≠ '\\') (after : List Char) :
    closeQuote? quote (quote :: after) = some ([quote], after) := by
  rw [closeQuote?, if_pos rfl]
  rintro c rest h
  exact absurd h hquote

theorem closeQuote?_plain {c : Char} (hquote : c ≠ quote) (hescape : c ≠ '\\') (hbreak : c ≠ '\n')
    (rest : List Char) : closeQuote? quote (c :: rest) = extend [c] (closeQuote? quote rest) := by
  rw [closeQuote?, if_neg hquote, if_neg (by simp [hescape, hbreak])]
  rintro d more h
  exact absurd h hescape

/-- **A literal is read up to its quote** exactly if its body is well formed. -/
theorem closeQuote?_eq_some (hquote : quote ≠ '\\') :
    closeQuote? quote s = some (closed, after) ↔
      ∃ body, IsLiteralBody quote body ∧ closed = body ++ [quote] ∧ s = closed ++ after := by
  constructor
  · intro h
    fun_induction closeQuote? quote s generalizing closed after with
    | case1 => exact absurd h (by simp)
    | case2 c rest ih =>
        obtain ⟨closed, hclosed, rfl⟩ := extend_eq_some h
        obtain ⟨body, hbody, rfl, rfl⟩ := ih hclosed
        exact ⟨'\\' :: c :: body, hbody.escape c, rfl, rfl⟩
    | case3 rest _ =>
        obtain ⟨rfl, rfl⟩ := Prod.mk.inj (Option.some.inj h)
        exact ⟨[], .nil, rfl, rfl⟩
    | case4 => exact absurd h (by simp)
    | case5 c rest _ hne hplain ih =>
        obtain ⟨closed, hclosed, rfl⟩ := extend_eq_some h
        obtain ⟨body, hbody, rfl, rfl⟩ := ih hclosed
        obtain ⟨hbreak, hescape⟩ := not_or.1 hplain
        exact ⟨c :: body, hbody.plain hne hescape hbreak, rfl, rfl⟩
  · rintro ⟨body, hbody, rfl, rfl⟩
    induction hbody with
    | nil => exact closeQuote?_quote hquote after
    | escape c _ ih =>
        simp only [List.cons_append] at ih ⊢
        rw [closeQuote?, ih]
        rfl
    | plain hne hescape hbreak _ ih =>
        simp only [List.cons_append] at ih ⊢
        rw [closeQuote?_plain hne hescape hbreak, ih]
        rfl

/-- A mark that ends block comments occurs neither in a body nor across its end. -/
theorem closeBlock?_body {c : Char} {body : List Char}
    (h : occursIn ['*', '/'] (c :: body) = false) (after : List Char) :
    closeBlock? (c :: (body ++ '*' :: '/' :: after)) =
      extend [c] (closeBlock? (body ++ '*' :: '/' :: after)) := by
  rw [occursIn, Bool.or_eq_false_iff] at h
  rw [closeBlock?]
  rintro rest rfl hrest
  cases body with
  | nil => exact absurd hrest (by simp)
  | cons d body =>
      obtain ⟨rfl, -⟩ := List.cons.inj hrest
      exact absurd h.1 (by simp)

/-- **A block comment is read up to the first mark that ends it.** -/
theorem closeBlock?_eq_some :
    closeBlock? s = some (closed, after) ↔
      ∃ body, occursIn ['*', '/'] body = false ∧ closed = body ++ ['*', '/'] ∧
        s = closed ++ after := by
  constructor
  · intro h
    fun_induction closeBlock? s generalizing closed after with
    | case1 => exact absurd h (by simp)
    | case2 rest =>
        obtain ⟨rfl, rfl⟩ := Prod.mk.inj (Option.some.inj h)
        exact ⟨[], rfl, rfl, rfl⟩
    | case3 c rest hopen ih =>
        obtain ⟨closed, hclosed, rfl⟩ := extend_eq_some h
        obtain ⟨body, hbody, rfl, rfl⟩ := ih hclosed
        refine ⟨c :: body, ?_, rfl, rfl⟩
        rw [occursIn, hbody, Bool.or_false, Bool.eq_false_iff, Ne, List.isPrefixOf_iff_prefix]
        rintro ⟨more, hmore⟩
        obtain ⟨rfl, rfl⟩ := List.cons.inj hmore
        exact hopen _ rfl rfl
  · rintro ⟨body, hbody, rfl, rfl⟩
    rw [List.append_assoc, List.cons_append, List.cons_append, List.nil_append]
    induction body with
    | nil => rfl
    | cons c body ih =>
        have hbody' : occursIn ['*', '/'] body = false := by
          rw [occursIn, Bool.or_eq_false_iff] at hbody
          exact hbody.2
        rw [List.cons_append, closeBlock?_body hbody, ih hbody']
        rfl

/-- A line comment is read up to the end of its line. -/
theorem lexeme?_lineComment (rest : List Char) :
    lexeme? ('/' :: '/' :: rest) =
      some ('/' :: '/' :: rest.takeWhile (· ≠ '\n'), rest.dropWhile (· ≠ '\n')) := rfl

/-- **What is read are the complete comments and literals.** -/
theorem lexeme?_eq_some {t : List Char} :
    lexeme? s = some (t, after) ↔ s = t ++ after ∧ IsComplete t ∧ CanFollow t after := by
  constructor
  · intro h
    refine ⟨lexeme?_append h, ?_⟩
    rw [lexeme?.eq_def] at h
    split at h
    · rename_i rest
      obtain ⟨rfl, rfl⟩ := Prod.mk.inj (Option.some.inj h)
      refine ⟨.lineComment ?_, fun _ => ?_⟩
      · intro hmem
        exact absurd (List.mem_takeWhile_imp hmem) (by simp)
      · have hhead := List.head?_dropWhile_not (· ≠ '\n') rest
        cases hdrop : rest.dropWhile (· ≠ '\n') with
        | nil => exact Or.inl rfl
        | cons c more =>
            rw [hdrop] at hhead
            exact Or.inr ⟨more, by rw [of_not_not (of_decide_eq_false hhead)]⟩
    · obtain ⟨closed, hclosed, rfl⟩ := extend_eq_some h
      obtain ⟨body, hbody, rfl, -⟩ := closeBlock?_eq_some.1 hclosed
      exact ⟨.blockComment hbody, fun hline => absurd hline (by simp)⟩
    · obtain ⟨closed, hclosed, rfl⟩ := extend_eq_some h
      obtain ⟨body, hbody, rfl, -⟩ := (closeQuote?_eq_some (by decide)).1 hclosed
      exact ⟨.string hbody, fun hline => absurd hline (by simp)⟩
    · obtain ⟨closed, hclosed, rfl⟩ := extend_eq_some h
      obtain ⟨body, hbody, rfl, -⟩ := (closeQuote?_eq_some (by decide)).1 hclosed
      exact ⟨.character hbody, fun hline => absurd hline (by simp)⟩
    · exact absurd h (by simp)
  · rintro ⟨rfl, hcomplete, hfollow⟩
    cases hcomplete with
    | @lineComment body hbody =>
        have hends : ∀ c ∈ body, decide (c ≠ '\n') = true := by
          intro c hc
          exact decide_eq_true fun heq => hbody (heq ▸ hc)
        rw [List.cons_append, List.cons_append, lexeme?_lineComment,
          List.takeWhile_append_of_pos hends, List.dropWhile_append_of_pos hends]
        obtain rfl | ⟨more, rfl⟩ := hfollow ⟨body, rfl⟩
        · simp
        · simp
    | @blockComment body hbody =>
        have hclosed : closeBlock? (body ++ ['*', '/'] ++ after) = some (_, after) :=
          closeBlock?_eq_some.2 ⟨body, hbody, rfl, rfl⟩
        simp only [List.cons_append]
        rw [lexeme?, hclosed]
        rfl
    | @string body hbody =>
        have hclosed : closeQuote? '"' (body ++ ['"'] ++ after) = some (_, after) :=
          (closeQuote?_eq_some (by decide)).2 ⟨body, hbody, rfl, rfl⟩
        simp only [List.cons_append]
        rw [lexeme?, hclosed]
        rfl
    | @character body hbody =>
        have hclosed : closeQuote? '\'' (body ++ ['\''] ++ after) = some (_, after) :=
          (closeQuote?_eq_some (by decide)).2 ⟨body, hbody, rfl, rfl⟩
        simp only [List.cons_append]
        rw [lexeme?, hclosed]
        rfl

end Literal

/-! ### Stripping -/

/-- **A complete comment or literal is taken out whole**, and leaves its line feeds behind. -/
theorem strip_of_complete {t after : List Char} (ht : IsComplete t) (hfollow : CanFollow t after) :
    strip (t ++ after) = lineFeeds t ++ strip after :=
  strip_of_lexeme (lexeme?_eq_some.2 ⟨rfl, ht, hfollow⟩)

theorem CanFollow.append {t after : List Char} (h : CanFollow t after) (hne : after ≠ [])
    (more : List Char) : CanFollow t (after ++ more) := by
  intro hline
  obtain rfl | ⟨rest, rfl⟩ := h hline
  · exact absurd rfl hne
  · exact Or.inr ⟨rest ++ more, rfl⟩

theorem lineFeeds_of_not_mem {s : List Char} (h : '\n' ∉ s) : lineFeeds s = [] := by
  rw [lineFeeds, countLineFeeds, List.count_eq_zero_of_not_mem h, List.replicate_zero]

theorem not_mem_lineComment {body : List Char} (h : IsComplete ('/' :: '/' :: body)) :
    '\n' ∉ body := by
  generalize ht : '/' :: '/' :: body = t at h
  cases h with
  | lineComment hbody =>
      simp only [List.cons.injEq, true_and] at ht
      exact ht ▸ hbody
  | blockComment => exact absurd ht (by simp)
  | string => exact absurd ht (by simp)
  | character => exact absurd ht (by simp)

namespace EndsInCode

/-- A comment or literal at the start of a text that ends in code is no line comment that goes on
up to its end: a letter behind it would be lost. -/
theorem canFollow {t after : List Char} (h : EndsInCode (t ++ after)) (ht : IsComplete t)
    (hfollow : CanFollow t after) (more : List Char) : CanFollow t (after ++ more) := by
  cases after with
  | cons c after => exact hfollow.append (by simp) more
  | nil =>
      rintro ⟨body, rfl⟩
      have hbody : '\n' ∉ body := not_mem_lineComment ht
      -- The letter would belong to the comment and be taken out with it.
      have hlonger : '\n' ∉ body ++ ['x'] := by simp [hbody]
      have hlost : strip ('/' :: '/' :: (body ++ ['x']) ++ []) = _ :=
        strip_of_complete (.lineComment hlonger) fun _ => Or.inl rfl
      rw [List.append_nil, strip_nil, lineFeeds_of_not_mem (by simp [hbody])] at hlost
      have hkeeps := h.keepsLetter
      simp only [List.append_nil, List.cons_append, List.nil_append] at hkeeps
      rw [hlost] at hkeeps
      exact absurd hkeeps (by simp)

/-- Where a text that ends in code begins with no comment or literal, none arises with more behind
it: an opener would be left in what remains, or the text would end with a slash. -/
theorem lexeme?_eq_none {c : Char} {p : List Char} (h : EndsInCode (c :: p))
    (hnone : lexeme? (c :: p) = none) (more : List Char) : lexeme? (c :: (p ++ more)) = none := by
  -- Since `c` is kept, what it would open stands in what remains of the text.
  have hstrip := strip_of_plain hnone
  rw [Option.eq_none_iff_forall_not_mem]
  rintro ⟨t, after⟩ hsome
  obtain ⟨heq, ht, -⟩ := lexeme?_eq_some.1 hsome
  cases ht with
  | lineComment =>
      obtain ⟨rfl, hrest⟩ := List.cons.inj heq
      cases p with
      | nil => exact h.noSlash rfl
      | cons d p =>
          obtain ⟨rfl, -⟩ := List.cons.inj hrest
          exact absurd hnone (by simp [lexeme?])
  | blockComment =>
      obtain ⟨rfl, hrest⟩ := List.cons.inj heq
      cases p with
      | nil => exact h.noSlash rfl
      | cons d p =>
          obtain ⟨rfl, -⟩ := List.cons.inj hrest
          have hstar : strip ('*' :: p) = '*' :: strip p := strip_of_plain rfl
          have hblock := h.noBlock
          rw [hstrip, hstar, occursIn] at hblock
          exact absurd hblock (by simp)
  | string =>
      obtain ⟨rfl, -⟩ := List.cons.inj heq
      exact h.noString (by simp [hstrip])
  | character =>
      obtain ⟨rfl, -⟩ := List.cons.inj heq
      exact h.noCharacter (by simp [hstrip])

/-- What is stripped on its own at the end of a text that ends in code ends in code. -/
theorem of_suffix {front before after : List Char} (h : EndsInCode (before ++ after))
    (hstrip : strip (before ++ after) = front ++ strip after)
    (hletter : strip (before ++ (after ++ ['x'])) = front ++ strip (after ++ ['x'])) :
    EndsInCode after where
  noSlash hlast := h.noSlash (by rw [List.getLast?_append, hlast, Option.some_or])
  keepsLetter := by
    have hkeeps := h.keepsLetter
    rw [List.append_assoc, hletter, hstrip, List.append_assoc] at hkeeps
    exact List.append_cancel_left hkeeps
  noString hmem := h.noString (by simp [hstrip, hmem])
  noCharacter hmem := h.noCharacter (by simp [hstrip, hmem])
  noBlock := by
    rw [Bool.eq_false_iff, Ne, occursIn_iff]
    rintro ⟨left, right, hocc⟩
    have hblock := Bool.eq_false_iff.1 h.noBlock
    exact hblock ((occursIn_iff _ _).2 ⟨front ++ left, right, by simp [hstrip, hocc]⟩)

/-- What follows the first comment or literal of a text that ends in code ends in code. -/
theorem of_complete {t after : List Char} (h : EndsInCode (t ++ after)) (ht : IsComplete t)
    (hfollow : CanFollow t after) : EndsInCode after :=
  h.of_suffix (strip_of_complete ht hfollow)
    (strip_of_complete ht (h.canFollow ht hfollow ['x']))

/-- What follows the first character of a text that ends in code ends in code, unless that begins a
comment or literal. -/
theorem of_plain {c : Char} {p : List Char} (h : EndsInCode (c :: p))
    (hnone : lexeme? (c :: p) = none) : EndsInCode p :=
  have hcons : EndsInCode ([c] ++ p) := h
  have hstrip : strip ([c] ++ p) = [c] ++ strip p := strip_of_plain hnone
  hcons.of_suffix hstrip (strip_of_plain (h.lexeme?_eq_none hnone ['x']))

end EndsInCode

/-- **A text that ends in code is stripped on its own.** -/
theorem strip_append {p : List Char} (h : EndsInCode p) (more : List Char) :
    strip (p ++ more) = strip p ++ strip more := by
  -- one comment or literal, or one plain character, at a time
  induction hlength : p.length using Nat.strongRecOn generalizing p with
  | ind n ih =>
      subst hlength
      cases p with
      | nil => simp
      | cons c p =>
          cases hread : lexeme? (c :: p) with
          | none =>
              rw [List.cons_append, strip_of_plain (h.lexeme?_eq_none hread more),
                strip_of_plain hread, ih p.length (by simp) (h.of_plain hread) rfl]
              rfl
          | some split =>
              obtain ⟨t, after⟩ := split
              obtain ⟨heq, ht, hfollow⟩ := lexeme?_eq_some.1 hread
              have hshort := lexeme?_length hread
              rw [heq] at h ⊢
              rw [List.append_assoc, strip_of_complete ht (h.canFollow ht hfollow more),
                strip_of_complete ht hfollow, ih after.length hshort (h.of_complete ht hfollow) rfl,
                List.append_assoc]

/-- **What stands inside a comment or literal has no influence.**  Behind a text that ends in code
a complete comment or literal leaves its line feeds and nothing else, and what follows it is
stripped on its own; so definitions of `main` and brackets are the same with any other one in its
place that has as many line feeds. -/
theorem strip_complete {p t s : List Char} (hp : EndsInCode p) (ht : IsComplete t)
    (hs : CanFollow t s) :
    strip (p ++ t ++ s) = strip p ++ lineFeeds t ++ strip s ∧
      ∀ t', IsComplete t' → CanFollow t' s → countLineFeeds t' = countLineFeeds t →
        mainCount (p ++ t' ++ s) = mainCount (p ++ t ++ s) ∧
          imbalance? (p ++ t' ++ s) = imbalance? (p ++ t ++ s) := by
  have hstrip : ∀ u, IsComplete u → CanFollow u s →
      strip (p ++ u ++ s) = strip p ++ lineFeeds u ++ strip s := by
    intro u hu hfollow
    rw [List.append_assoc, strip_append hp, strip_of_complete hu hfollow, List.append_assoc]
  refine ⟨hstrip t ht hs, fun t' ht' hs' hcount => ?_⟩
  have hsame : strip (p ++ t' ++ s) = strip (p ++ t ++ s) := by
    rw [hstrip t' ht' hs', hstrip t ht hs, lineFeeds, lineFeeds, hcount]
  exact ⟨by rw [mainCount, mainCount, hsame], by rw [imbalance?, imbalance?, hsame]⟩

/-- A quote in a block comment opens nothing, and slashes and a quote behind a backslash do not end
the literal they stand in. -/
theorem strip_complete_quoted :
    EndsInCode ['/', '*', '"', '*', '/', 'a'] ∧ IsComplete ['"', '/', '/', '\\', '"', '"'] ∧
      CanFollow ['"', '/', '/', '\\', '"', '"'] ['('] ∧
        strip (['/', '*', '"', '*', '/', 'a'] ++ ['"', '/', '/', '\\', '"', '"'] ++ ['(']) =
          strip ['/', '*', '"', '*', '/', 'a'] ++ lineFeeds ['"', '/', '/', '\\', '"', '"'] ++
            strip ['('] ∧
        imbalance? (['/', '*', '"', '*', '/', 'a'] ++ ['/', '*', '*', '*', '/'] ++ ['(']) =
          imbalance?
            (['/', '*', '"', '*', '/', 'a'] ++ ['"', '/', '/', '\\', '"', '"'] ++ ['(']) := by
  have hquote : IsComplete ['/', '*', '"', '*', '/'] :=
    IsComplete.blockComment (rfl : occursIn ['*', '/'] ['"'] = false)
  have hcomment (after : List Char) :
      strip (['/', '*', '"', '*', '/'] ++ after) = [] ++ strip after :=
    strip_of_complete hquote fun hline => absurd hline (by decide)
  have ha : strip ['/', '*', '"', '*', '/', 'a'] = ['a'] :=
    (hcomment ['a']).trans (by rw [strip_of_plain rfl, strip_nil, List.nil_append])
  have hax : strip ['/', '*', '"', '*', '/', 'a', 'x'] = ['a', 'x'] :=
    (hcomment ['a', 'x']).trans
      (by rw [strip_of_plain rfl, strip_of_plain rfl, strip_nil, List.nil_append])
  have hp : EndsInCode ['/', '*', '"', '*', '/', 'a'] :=
    ⟨by decide, hax.trans (congrArg (· ++ ['x']) ha.symm), by rw [ha]; decide, by rw [ha]; decide,
      by rw [ha]; decide⟩
  have ht : IsComplete ['"', '/', '/', '\\', '"', '"'] :=
    .string (.plain (by decide) (by decide) (by decide)
      (.plain (by decide) (by decide) (by decide) (.escape '"' .nil)))
  have hs : CanFollow ['"', '/', '/', '\\', '"', '"'] ['('] :=
    fun hline => absurd hline (by decide)
  have hstars : IsComplete (['/', '*'] ++ ['*'] ++ ['*', '/']) := .blockComment rfl
  have hstarsFollow : CanFollow ['/', '*', '*', '*', '/'] ['('] :=
    fun hline => absurd hline (by decide)
  obtain ⟨hstrip, hother⟩ := strip_complete hp ht hs
  exact ⟨hp, ht, hs, hstrip, (hother _ hstars hstarsFollow rfl).2⟩

end EntryTemplates.Source
