/-
**The line on which a bracket is reported.**

The first bracket that does not fit is reported with a line, and that line is counted in what is left
of the text without its comments and literals.  Line feeds are never lost on the way there, so the
number says how many of them stand before the bracket.  It says more where other line ends are left:
a form feed, or a carriage return that no line feed follows, is a line end of what is left, though
none is counted inside comments and literals.

Main definitions:

* `EntryTemplates.Source.ReadsUpTo` — reading a text as far as some place, and what that leaves;
* `EntryTemplates.Source.Offends` — the first bracket that does not fit, at its place in the text;
* `EntryTemplates.Source.strayEnds` — the line ends that belong to no line feed.

Main results:

* `EntryTemplates.Source.exists_readsUpTo` — what is left of a text comes from places in it;
* `EntryTemplates.Source.pairUp_of_unfit` — the number of the line on which the scan stops;
* `EntryTemplates.Source.unexpected_line` — **the line on which a bracket is reported**;
* `EntryTemplates.Source.form_feed_counted` — a form feed in front of a bracket.
-/

import EntryTemplates.Proofs.Source.Brackets
import EntryTemplates.Proofs.Source.Lexemes
import Mathlib.Data.Bool.AllAny

set_option relaxedAutoImplicit false
set_option autoImplicit false

namespace EntryTemplates.Source

open EntryTemplates.Text

/-! ### Places in a text -/

/-- Reading a text passes `before` and leaves `left` of it.  There `after` is still to be read, and no
comment or literal is open. -/
inductive ReadsUpTo : List Char → List Char → List Char → List Char → Prop
  | here (content : List Char) : ReadsUpTo content [] [] content
  | lexeme {content t rest before left after : List Char} (hread : lexeme? content = some (t, rest))
      (h : ReadsUpTo rest before left after) :
      ReadsUpTo content (t ++ before) (lineFeeds t ++ left) after
  | plain {c : Char} {rest before left after : List Char} (hread : lexeme? (c :: rest) = none)
      (h : ReadsUpTo rest before left after) :
      ReadsUpTo (c :: rest) (c :: before) (c :: left) after

theorem countLineFeeds_lineFeeds (s : List Char) :
    countLineFeeds (lineFeeds s) = countLineFeeds s := by
  simp [lineFeeds, countLineFeeds]

namespace ReadsUpTo

variable {content before left after before' left' after' : List Char}

theorem eq_append (h : ReadsUpTo content before left after) : content = before ++ after := by
  induction h with
  | here => rfl
  | lexeme hread _ ih => rw [lexeme?_append hread, ih, List.append_assoc]
  | plain _ _ ih => rw [ih, List.cons_append]

theorem strip_eq (h : ReadsUpTo content before left after) : strip content = left ++ strip after := by
  induction h with
  | here => rfl
  | lexeme hread _ ih => rw [strip_of_lexeme hread, ih, List.append_assoc]
  | plain hread _ ih => rw [strip_of_plain hread, ih, List.cons_append]

/-- **No line feed is lost.** -/
theorem countLineFeeds_eq (h : ReadsUpTo content before left after) :
    countLineFeeds left = countLineFeeds before := by
  induction h with
  | here => rfl
  | lexeme _ _ ih => rw [countLineFeeds_append, countLineFeeds_append, countLineFeeds_lineFeeds, ih]
  | plain _ _ ih => simpa only [countLineFeeds, List.count_cons, Nat.add_right_cancel_iff] using ih

/-- Of two places in a text one is read on the way to the other. -/
theorem total (h : ReadsUpTo content before left after)
    (h' : ReadsUpTo content before' left' after') :
    (∃ more kept, ReadsUpTo after more kept after' ∧ before' = before ++ more ∧
      left' = left ++ kept) ∨
    ∃ more kept, ReadsUpTo after' more kept after ∧ before = before' ++ more ∧
      left = left' ++ kept := by
  induction h generalizing before' left' with
  | here => exact Or.inl ⟨before', left', h', rfl, rfl⟩
  | lexeme hread h ih =>
      cases h' with
      | here => exact Or.inr ⟨_, _, h.lexeme hread, rfl, rfl⟩
      | lexeme hread' h' =>
          obtain ⟨rfl, rfl⟩ := Prod.mk.inj (Option.some.inj (hread.symm.trans hread'))
          rcases ih h' with ⟨more, kept, hmore, rfl, rfl⟩ | ⟨more, kept, hmore, rfl, rfl⟩
          · exact Or.inl ⟨more, kept, hmore, by simp, by simp⟩
          · exact Or.inr ⟨more, kept, hmore, by simp, by simp⟩
      | plain hread' => exact absurd (hread.symm.trans hread') (by simp)
  | plain hread h ih =>
      cases h' with
      | here => exact Or.inr ⟨_, _, h.plain hread, rfl, rfl⟩
      | lexeme hread' => exact absurd (hread.symm.trans hread') (by simp)
      | plain _ h' =>
          rcases ih h' with ⟨more, kept, hmore, rfl, rfl⟩ | ⟨more, kept, hmore, rfl, rfl⟩
          · exact Or.inl ⟨more, kept, hmore, rfl, rfl⟩
          · exact Or.inr ⟨more, kept, hmore, rfl, rfl⟩

end ReadsUpTo

/-- **What is left of a text comes from places in it**, but for the line feeds of comments and
literals. -/
theorem exists_readsUpTo {content left more : List Char} {c : Char} (hc : c ≠ '\n')
    (h : strip content = left ++ c :: more) :
    ∃ before after, ReadsUpTo content before left (c :: after) := by
  fun_induction strip content generalizing left with
  | case1 => exact absurd h (by simp)
  | case2 d rest t after hread ih =>
      rcases List.append_eq_append_iff.1 h with ⟨a, rfl, hafter⟩ | ⟨a, hfeeds, hmore⟩
      · obtain ⟨before, after', hplace⟩ := ih hafter
        exact ⟨t ++ before, after', hplace.lexeme hread⟩
      · -- the character is none of the line feeds that the comment or literal leaves
        cases a with
        | nil =>
            have hnone : strip after = [] ++ c :: more := hmore.symm
            obtain ⟨before, after', hplace⟩ := ih hnone
            have hleft : lineFeeds t ++ [] = left := by rw [List.append_nil, hfeeds, List.append_nil]
            exact ⟨t ++ before, after', hleft ▸ hplace.lexeme hread⟩
        | cons e a =>
            obtain ⟨rfl, -⟩ := List.cons.inj hmore
            have hmem : c ∈ lineFeeds t := by rw [hfeeds]; simp
            exact absurd (List.eq_of_mem_replicate hmem) hc
  | case3 d rest hread ih =>
      cases left with
      | nil =>
          obtain ⟨rfl, -⟩ := List.cons.inj h
          exact ⟨[], rest, .here _⟩
      | cons e left =>
          obtain ⟨rfl, hrest⟩ := List.cons.inj h
          obtain ⟨before, after, hplace⟩ := ih hrest
          exact ⟨d :: before, after, hplace.plain hread⟩

/-- Characters that open nothing are left as they are. -/
theorem readsUpTo_of_plain {before : List Char} (h : ∀ c ∈ before, c ∉ ['/', '"', '\''])
    (after : List Char) : ReadsUpTo (before ++ after) before before after := by
  induction before with
  | nil => exact .here after
  | cons c before ih =>
      have hplain := lexeme?_of_not_opener (h c (by simp)) (before ++ after)
      exact .plain hplain (ih fun d hd => h d (List.mem_cons_of_mem _ hd))

/-! ### The bracket that does not fit -/

/-- The bracket `c` is the first one that does not fit: it stands between `before` and `after`,
outside of comments and literals, the brackets before it can be completed, and together with it they
cannot. -/
structure Offends (content before left : List Char) (c : Char) (after : List Char) : Prop where
  read : ReadsUpTo content before left (c :: after)
  bracket : isBracket c = true
  fits : Extendable (left.filter isBracket)
  unfit : ¬ Extendable (left.filter isBracket ++ [c])

theorem Extendable.of_append {u v : List Char} (h : Extendable (u ++ v)) : Extendable u := by
  obtain ⟨w, hw⟩ := h
  exact ⟨v ++ w, by rwa [List.append_assoc] at hw⟩

theorem not_opener_of_isBracket {c : Char} (h : isBracket c = true) : c ∉ ['/', '"', '\''] := by
  have hnone : ∀ d ∈ ['/', '"', '\''], isBracket d = false := List.all_iff_forall_prop.1 (by decide)
  intro hmem
  rw [hnone c hmem] at h
  exact absurd h (by decide)

theorem ne_lineFeed_of_isBracket {c : Char} (h : isBracket c = true) : c ≠ '\n' := by
  rintro rfl
  exact absurd h (by decide)

namespace Offends

variable {content before left after : List Char} {c : Char}

/-- What is read behind a bracket that does not fit leaves brackets that do not fit. -/
theorem eq_of_readsUpTo (h : Offends content before left c after) {more kept after' : List Char}
    (hmore : ReadsUpTo (c :: after) more kept after')
    (hfits : Extendable ((left ++ kept).filter isBracket)) : more = [] := by
  cases hmore with
  | here => rfl
  | lexeme hread =>
      rw [lexeme?_of_not_opener (not_opener_of_isBracket h.bracket)] at hread
      cases hread
  | @plain _ _ _ kept =>
      refine absurd (Extendable.of_append (v := kept.filter isBracket) ?_) h.unfit
      simpa [h.bracket] using hfits

/-- **There is no other such bracket.** -/
theorem unique (h : Offends content before left c after) {before' left' after' : List Char}
    {c' : Char} (h' : Offends content before' left' c' after') : before = before' ∧ c = c' := by
  have hbefore : before = before' := by
    rcases h.read.total h'.read with ⟨more, kept, hmore, rfl, rfl⟩ | ⟨more, kept, hmore, rfl, rfl⟩
    · rw [h.eq_of_readsUpTo hmore h'.fits, List.append_nil]
    · rw [h'.eq_of_readsUpTo hmore h.fits, List.append_nil]
  subst hbefore
  have hrest : c :: after = c' :: after' :=
    List.append_cancel_left (h.read.eq_append.symm.trans h'.read.eq_append)
  exact ⟨rfl, (List.cons.inj hrest).1⟩

end Offends

/-- The first bracket of the word that does not fit stands in the text. -/
theorem exists_offends {content : List Char} {c : Char} (h : FirstUnfit (word content) c) :
    ∃ before left after, Offends content before left c after := by
  obtain ⟨u, v, hword, hfits, hunfit⟩ := h
  obtain ⟨left, rest, hstrip, rfl, hrest⟩ := List.filter_eq_append_iff.1 hword
  obtain ⟨others, more, rfl, hothers, hc, -⟩ := List.filter_eq_cons_iff.1 hrest
  rw [← List.append_assoc] at hstrip
  obtain ⟨before, after, hread⟩ := exists_readsUpTo (ne_lineFeed_of_isBracket hc) hstrip
  have hleft : (left ++ others).filter isBracket = left.filter isBracket := by
    rw [List.filter_append, List.filter_eq_nil_iff.2 hothers, List.append_nil]
  exact ⟨before, left ++ others, after, hread, hc, by rwa [hleft], by rwa [hleft]⟩

/-! ### Line ends -/

/-- The number of line ends that belong to no line feed: all but line feeds and the carriage returns
that stand directly before one. -/
def strayEnds : List Char → Nat
  | [] => 0
  | '\r' :: '\n' :: rest => strayEnds rest
  | c :: rest => (if isLineEnd c = true ∧ c ≠ '\n' then 1 else 0) + strayEnds rest

/-- A character adds one to the two numbers together exactly if it is a line end. -/
theorem countLineFeeds_cons_add (c : Char) (s : List Char) :
    countLineFeeds (c :: s) + (if isLineEnd c = true ∧ c ≠ '\n' then 1 else 0) =
      countLineFeeds s + if isLineEnd c = true then 1 else 0 := by
  rw [countLineFeeds, countLineFeeds, List.count_cons]
  by_cases hfeed : c = '\n'
  · subst hfeed
    rfl
  · simp [hfeed]

/-- Every line end belongs to a line feed. -/
def OnlyLineFeeds (s : List Char) : Prop :=
  ∀ x c y, s = x ++ c :: y → isLineEnd c = true → c = '\n' ∨ c = '\r' ∧ y.head? = some '\n'

theorem strayEnds_eq_zero_iff (s : List Char) : strayEnds s = 0 ↔ OnlyLineFeeds s := by
  fun_induction strayEnds s with
  | case1 => exact iff_of_true rfl fun x c y h => absurd h (by simp)
  | case2 rest ih =>
      rw [ih]
      constructor
      · intro h x c y hs hc
        match x, hs with
        | [], hs =>
            obtain ⟨rfl, rfl⟩ := List.cons.inj hs
            exact Or.inr ⟨rfl, rfl⟩
        | [_], hs =>
            obtain ⟨-, hs⟩ := List.cons.inj hs
            obtain ⟨rfl, -⟩ := List.cons.inj hs
            exact Or.inl rfl
        | _ :: _ :: x, hs =>
            obtain ⟨-, hs⟩ := List.cons.inj hs
            obtain ⟨-, hs⟩ := List.cons.inj hs
            exact h x c y hs hc
      · intro h x c y hs hc
        exact h ('\r' :: '\n' :: x) c y (by rw [hs]; rfl) hc
  | case3 c rest hpair ih =>
      rw [Nat.add_eq_zero_iff, ih]
      constructor
      · rintro ⟨hfirst, h⟩ x d y hs hd
        cases x with
        | nil =>
            obtain ⟨rfl, rfl⟩ := List.cons.inj hs
            refine Or.inl (by_contra fun hne => ?_)
            rw [if_pos ⟨hd, hne⟩] at hfirst
            cases hfirst
        | cons _ x =>
            obtain ⟨-, hs⟩ := List.cons.inj hs
            exact h x d y hs hd
      · intro h
        refine ⟨if_neg fun hend => ?_, fun x d y hs hd => h (c :: x) d y (by rw [hs]; rfl) hd⟩
        rcases h [] c rest rfl hend.1 with hfeed | ⟨rfl, hhead⟩
        · exact hend.2 hfeed
        · obtain ⟨rest', rfl⟩ := List.head?_eq_some_iff.1 hhead
          exact hpair rest' rfl rfl

/-! ### The line on which the scan stops -/

/-- What has begun a line stands at its beginning. -/
theorem exists_splitLinesFrom {begun : List Char} (hbegun : begun ≠ []) (s : List Char) :
    ∃ line lines, splitLinesFrom begun s = (begun.reverse ++ line) :: lines := by
  fun_induction splitLinesFrom begun s with
  | case1 begun hempty => exact absurd (List.isEmpty_iff.1 hempty) hbegun
  | case2 begun _ => exact ⟨[], [], by simp⟩
  | case3 begun rest => exact ⟨[], _, by rw [List.append_nil]⟩
  | case4 begun c rest => exact ⟨[], _, by rw [List.append_nil]⟩
  | case5 begun c rest _ _ ih =>
      obtain ⟨line, lines, h⟩ := ih (by simp)
      exact ⟨c :: line, lines, by simpa using h⟩

section Scan

variable {n : Nat} {stack stack' s : List Char}

/-- The number of a line has no influence on the brackets left open. -/
theorem pairLine_line (h : pairLine n stack s = .ok stack') (m : Nat) :
    pairLine m stack s = .ok stack' := by
  have hline : (pairLine m stack s).mapError Imbalance.bracket =
      (pairLine n stack s).mapError Imbalance.bracket := pairLine_error_line
  rw [h] at hline
  cases hm : pairLine m stack s with
  | ok top =>
      rw [hm] at hline
      exact congrArg Except.ok (Except.ok.inj hline)
  | error problem =>
      rw [hm] at hline
      cases hline

/-- A line end leaves the brackets as they are. -/
theorem pairLine_lineEnd {c : Char} (hc : isLineEnd c = true) :
    pairLine n stack (c :: s) = pairLine n stack s := by
  rw [pairLine_cons, pairChar_other (isBracket_of_isLineEnd hc)]

theorem pairLine_append_eq_ok {u v : List Char} (h : pairLine n stack (u ++ v) = .ok stack') :
    ∃ top, pairLine n stack u = .ok top ∧ pairLine n top v = .ok stack' := by
  rw [pairLine_append] at h
  cases hu : pairLine n stack u with
  | ok top =>
      rw [hu] at h
      exact ⟨top, rfl, h⟩
  | error problem =>
      rw [hu] at h
      cases h

/-- **The number of the line on which the scan stops**: one more for each line feed before the
bracket that does not fit, and for each line end that belongs to no line feed. -/
theorem pairUp_of_unfit {begun left more : List Char} {c : Char} (hc : isBracket c = true)
    (hleft : pairLine n stack (begun.reverse ++ left) = .ok stack')
    (hunfit : ∀ m, pairChar m stack' c = .error (.unexpected c m)) :
    pairUp n stack (splitLinesFrom begun (left ++ c :: more)) =
      .error (.unexpected c (n + countLineFeeds left + strayEnds left)) := by
  have hnoEnd : isLineEnd c = false := by
    by_contra hend
    rw [isBracket_of_isLineEnd (by simpa using hend)] at hc
    cases hc
  -- one line end, or one other character, at a time
  fun_induction strayEnds left generalizing n stack begun with
  | case1 =>
      rw [List.append_nil] at hleft
      have hline : splitLinesFrom begun (c :: more) = splitLinesFrom (c :: begun) more := by
        rw [splitLinesFrom, if_neg (by simp [hnoEnd])]
        rintro rest rfl -
        exact absurd hnoEnd (by decide)
      obtain ⟨line, lines, hlines⟩ := exists_splitLinesFrom (List.cons_ne_nil c begun) more
      have hstops : pairLine n stack ((c :: begun).reverse ++ line) = .error (.unexpected c n) := by
        rw [List.reverse_cons, List.append_assoc, pairLine_append, hleft]
        simp only [List.cons_append, pairLine_cons, hunfit]
      rw [List.nil_append, hline, hlines, pairUp, hstops]
      rfl
  | case2 rest ih =>
      obtain ⟨top, hbegun, hrest⟩ := pairLine_append_eq_ok hleft
      rw [pairLine_lineEnd (by decide), pairLine_lineEnd (by decide)] at hrest
      rw [List.cons_append, List.cons_append, splitLinesFrom, pairUp, hbegun]
      have hline : pairLine (n + 1) top (([] : List Char).reverse ++ rest) = .ok stack' :=
        pairLine_line hrest (n + 1)
      have hnext := ih hline
      have hfeeds : countLineFeeds ('\r' :: '\n' :: rest) = countLineFeeds rest + 1 := by
        simp [countLineFeeds]
      rw [hfeeds, ← Nat.add_assoc, Nat.add_right_comm n]
      exact hnext
  | case3 d rest hpair ih =>
      have hcons : splitLinesFrom begun (d :: (rest ++ c :: more)) =
          if isLineEnd d then begun.reverse :: splitLinesFrom [] (rest ++ c :: more)
          else splitLinesFrom (d :: begun) (rest ++ c :: more) := by
        rw [splitLinesFrom]
        rintro rest' rfl hrest
        cases rest with
        | nil =>
            obtain ⟨rfl, -⟩ := List.cons.inj hrest
            exact absurd hnoEnd (by decide)
        | cons e rest =>
            obtain ⟨rfl, -⟩ := List.cons.inj hrest
            exact hpair rest rfl rfl
      have hadds := countLineFeeds_cons_add d rest
      rw [List.cons_append, hcons, ← Nat.add_assoc, Nat.add_assoc n, hadds]
      by_cases hend : isLineEnd d = true
      · obtain ⟨top, hbegun, hrest⟩ := pairLine_append_eq_ok hleft
        rw [pairLine_lineEnd hend] at hrest
        have hline : pairLine (n + 1) top (([] : List Char).reverse ++ rest) = .ok stack' :=
          pairLine_line hrest (n + 1)
        rw [if_pos hend, if_pos hend, pairUp, hbegun, ← Nat.add_assoc, Nat.add_right_comm n]
        exact ih hline
      · rw [if_neg hend, if_neg hend, Nat.add_zero]
        have hline : pairLine n stack ((d :: begun).reverse ++ rest) = .ok stack' := by
          simpa using hleft
        exact ih hline

end Scan

/-- A bracket that does not fit is reported, with the line feeds before it and the stray line ends
in what is left there. -/
theorem Offends.imbalance?_eq {content before left after : List Char} {c : Char}
    (h : Offends content before left c after) :
    imbalance? content =
      some (.unexpected c (1 + countLineFeeds before + strayEnds left)) := by
  have hplain := strip_of_plain (lexeme?_of_not_opener (not_opener_of_isBracket h.bracket) after)
  obtain ⟨stack, hscan⟩ := h.fits.scan (n := 1)
  have hleaves := (pairLine_eq_ok fun d hd => (List.mem_filter.1 hd).2).1 hscan
  have hunfit : ∀ m, pairChar m stack c = .error (.unexpected c m) := by
    intro m
    cases hnext : pairChar m stack c with
    | ok stack' => exact absurd (hleaves.next h.bracket hnext).extendable h.unfit
    | error problem => rw [pairChar_eq_error hnext]
  rw [pairLine_filter] at hscan
  have hline : pairLine 1 [] (([] : List Char).reverse ++ left) = .ok stack := hscan
  rw [imbalance?, splitLines, h.read.strip_eq, hplain, pairUp_of_unfit h.bracket hline hunfit,
    h.read.countLineFeeds_eq]

/-- **The line on which a bracket is reported.**  A bracket is reported exactly if it is the first one
that does not fit, and there is at most one such place in a text.  The number of its line is one more
than that of the line feeds before it and of the stray line ends in what is left there.  So it tells
the line feeds exactly if every line end that is left belongs to one. -/
theorem unexpected_line (content : List Char) :
    (∀ c n, imbalance? content = some (.unexpected c n) ↔
      ∃ before left after, Offends content before left c after ∧
        n = 1 + countLineFeeds before + strayEnds left) ∧
    (∀ before left c after, Offends content before left c after →
      content = before ++ c :: after ∧
      (imbalance? content = some (.unexpected c (1 + countLineFeeds before)) ↔
        OnlyLineFeeds left) ∧
      ∀ before' left' c' after', Offends content before' left' c' after' → before' = before) := by
  refine ⟨fun c n => ⟨fun h => ?_, ?_⟩, fun before left c after h => ?_⟩
  · obtain ⟨before, left, after, hplace⟩ :=
      exists_offends (((imbalance?_decides content).2.1 c).1 ⟨n, h⟩)
    rw [hplace.imbalance?_eq] at h
    exact ⟨before, left, after, hplace, (Imbalance.unexpected.inj (Option.some.inj h)).2.symm⟩
  · rintro ⟨before, left, after, hplace, rfl⟩
    exact hplace.imbalance?_eq
  · refine ⟨h.read.eq_append, ?_, fun _ _ _ _ h' => (h'.unique h).1⟩
    rw [h.imbalance?_eq, ← strayEnds_eq_zero_iff]
    simp

/-- No word that can be completed begins with a closing bracket. -/
theorem not_extendable_curly : ¬ Extendable ['\x7d'] := by
  intro hfits
  obtain ⟨stack, hscan⟩ := hfits.scan (n := 1)
  exact absurd hscan (by simp [pairLine, pairChar, isOpening, opening?])

/-- A bracket behind a comment of two lines and a line that a carriage return and a line feed end. -/
theorem unexpected_line_returns :
    let content := ['/', '*', '\n', '*', '/', '\r', '\n', '\x7d']
    Offends content ['/', '*', '\n', '*', '/', '\r', '\n'] ['\n', '\r', '\n'] '\x7d' [] ∧
      OnlyLineFeeds ['\n', '\r', '\n'] ∧ imbalance? content = some (.unexpected '\x7d' 3) := by
  intro content
  have hread : lexeme? content = some (['/', '*', '\n', '*', '/'], ['\r', '\n', '\x7d']) := by
    decide +kernel
  have hplace : Offends content ['/', '*', '\n', '*', '/', '\r', '\n'] ['\n', '\r', '\n']
      '\x7d' [] :=
    ⟨.lexeme hread (.plain rfl (.plain rfl (.here _))), rfl, ⟨[], .nil⟩, not_extendable_curly⟩
  have honly : OnlyLineFeeds ['\n', '\r', '\n'] := (strayEnds_eq_zero_iff _).1 rfl
  exact ⟨hplace, honly, (((unexpected_line content).2 _ _ _ _ hplace).2.1).2 honly⟩

/-- A line of code, a form feed on a line of its own, and a bracket that closes nothing. -/
def formFed : List Char := ['i', 'n', 't', ' ', 'x', ';', '\n', '\x0c', '\n', '\x7d', '\n']

/-- **A form feed in front of a bracket** is counted like a line feed: the bracket stands behind two
line feeds, and is reported on the fourth line. -/
theorem form_feed_counted :
    ∃ before left after, Offends formFed before left '\x7d' after ∧ 1 + countLineFeeds before = 3 ∧
      imbalance? formFed = some (.unexpected '\x7d' 4) := by
  have hplain : ∀ c ∈ formFed.take 9, c ∉ ['/', '"', '\''] := List.all_iff_forall_prop.1 (by decide)
  have hread : ReadsUpTo formFed (formFed.take 9) (formFed.take 9) ['\x7d', '\n'] :=
    readsUpTo_of_plain hplain _
  have hplace : Offends formFed (formFed.take 9) (formFed.take 9) '\x7d' ['\n'] :=
    ⟨hread, rfl, ⟨[], .nil⟩, not_extendable_curly⟩
  exact ⟨_, _, _, hplace, rfl, hplace.imbalance?_eq⟩

end EntryTemplates.Source
