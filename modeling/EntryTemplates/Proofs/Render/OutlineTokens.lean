/-
**The tokens of an outline.**

Reading goes step by step: text up to the next tag, the beginning of the tag, a name with blanks
around it, the end of the tag.  A relation tells which tokens some steps hand on and where they end.

Main definitions:

* `EntryTemplates.Render.Passes` — some steps of reading;
* `EntryTemplates.Render.Outline.tokens` — the tokens that an outline is read as.

Main results:

* `EntryTemplates.Render.findTag_literal`, `findTag_eq_none` — where the next tag begins;
* `EntryTemplates.Render.readInside_name` — a name inside a tag;
* `EntryTemplates.Render.tokensOf_source` — **an outline is read as its tokens**.
-/

import EntryTemplates.Proofs.Document.Moves
import EntryTemplates.Proofs.Render.Outline

set_option relaxedAutoImplicit false
set_option autoImplicit false

namespace EntryTemplates.Render

open Text

/-! ### Characters of names -/

/-- What holds of the ASCII letters, digits and the underscore one by one holds of them all. -/
theorem of_nameChar {p : Char → Prop}
    (h : ∀ n < 128, (Char.ofNat n).isAlphanum = true ∨ Char.ofNat n = '_' → p (Char.ofNat n))
    {c : Char} (hc : c.isAlphanum = true ∨ c = '_') : p c := by
  have hlt : c.toNat < 128 := by
    obtain halnum | rfl := hc
    · have hlast : 'Z'.val.toNat = 90 ∧ 'z'.val.toNat = 122 ∧ '9'.val.toNat = 57 := by decide
      have hval : c.val.toNat = c.toNat := rfl
      change (decide ('A'.val ≤ c.val ∧ c.val ≤ 'Z'.val) ||
        (decide ('a'.val ≤ c.val) && decide (c.val ≤ 'z'.val)) ||
        (decide ('0'.val ≤ c.val) && decide (c.val ≤ '9'.val))) = true at halnum
      simp only [Bool.or_eq_true, Bool.and_eq_true, decide_eq_true_eq, UInt32.le_iff_toNat_le]
        at halnum
      omega
    · decide
  have hp := h c.toNat hlt
  rw [Char.ofNat_toNat] at hp
  exact hp hc

theorem isWord_of_nameChar {c : Char} (h : c.isAlphanum = true ∨ c = '_') : isWord c = true := by
  obtain halnum | rfl := h
  · simp [isWord, halnum]
  · decide

theorem isBlank_of_nameChar {c : Char} (h : c.isAlphanum = true ∨ c = '_') : isBlank c = false :=
  of_nameChar (p := fun c => isBlank c = false) (by decide) h

/-- A letter or the underscore begins no number. -/
theorem not_digit_of_start {c : Char} (h : c.isAlpha = true ∨ c = '_') :
    isDigit c = false ∧ c ≠ '0' ∧ ¬('1' ≤ c ∧ c ≤ '9') := by
  have hchar : c.isAlphanum = true ∨ c = '_' :=
    h.imp_left fun halpha => by simp [Char.isAlphanum, halpha]
  exact of_nameChar (p := fun c => c.isAlpha = true ∨ c = '_' →
    isDigit c = false ∧ c ≠ '0' ∧ ¬('1' ≤ c ∧ c ≤ '9')) (by decide) hchar h

/-! ### Places -/

@[simp] theorem rest_forward (n : Nat) (p : Place) : (p.forward n).rest = p.rest.drop n := rfl

theorem index_forward (n : Nat) (p : Place) :
    (p.forward n).index = p.index + (p.rest.take n).length := rfl

theorem skipBlanks_of_head {p : Place} {c : Char} {s : List Char} (hp : p.rest = c :: s)
    (hc : isBlank c = false) : p.skipBlanks.index = p.index := by
  rw [Place.skipBlanks, index_forward, hp, List.takeWhile_cons_of_neg (by simp [hc])]
  simp

/-- A blank before a character that is none. -/
theorem skipBlanks_of_blank {p : Place} {c : Char} {s : List Char} (hp : p.rest = ' ' :: c :: s)
    (hc : isBlank c = false) :
    p.skipBlanks.rest = c :: s ∧ p.skipBlanks.index = p.index + 1 := by
  have hblanks : (p.rest.takeWhile isBlank).length = 1 := by
    rw [hp, List.takeWhile_cons_of_pos (by decide), List.takeWhile_cons_of_neg (by simp [hc])]
    rfl
  rw [Place.skipBlanks, rest_forward, index_forward, hblanks, hp]
  simp

/-! ### The next tag -/

/-- **Text is read up to the tag behind it.** -/
theorem findTag_literal {s : List Char} (hs : IsLiteral s) (hlast : s.getLast? ≠ some '\x7b')
    (before rest : List Char) :
    findTag before (s ++ '\x7b' :: '\x7b' :: ' ' :: rest) =
      some (.variable, before.reverse ++ s, 2, false) := by
  induction s generalizing before with
  | nil =>
      rw [List.nil_append, findTag, if_pos rfl, List.append_nil]
      rfl
  | cons c s ih =>
      obtain ⟨hfirst, hrest⟩ := isLiteral_cons.1 hs
      have hnext : findTag (c :: before) (s ++ '\x7b' :: '\x7b' :: ' ' :: rest) =
          some (.variable, before.reverse ++ c :: s, 2, false) := by
        rw [ih hrest ?_ (c :: before)]
        · simp
        · intro heq
          exact hlast (by rw [List.getLast?_cons, heq]; rfl)
      by_cases hc : c = '\x7b'
      · -- A brace in the text is no mark: another character of the text stands behind it.
        cases s with
        | nil => exact absurd (by rw [hc]; rfl) hlast
        | cons d s =>
            have hmark := hfirst hc d rfl
            simp only [List.mem_cons, List.not_mem_nil, or_false, not_or] at hmark
            obtain ⟨hbrace, hpercent, hhash⟩ := hmark
            subst hc
            rw [List.cons_append, List.cons_append, findTag, if_neg hbrace, if_neg hhash,
              if_neg hpercent]
            exact hnext
      · rw [List.cons_append, findTag]
        · exact hnext
        · intro d more heq
          exact absurd heq hc

/-- **Text is read up to the end if no tag follows.** -/
theorem findTag_eq_none {s : List Char} (hs : IsLiteral s) (before : List Char) :
    findTag before s = none := by
  induction s generalizing before with
  | nil => rfl
  | cons c s ih =>
      obtain ⟨hfirst, hrest⟩ := isLiteral_cons.1 hs
      by_cases hc : c = '\x7b'
      · subst hc
        cases s with
        | nil => rfl
        | cons d s =>
            have hmark := hfirst rfl d rfl
            simp only [List.mem_cons, List.not_mem_nil, or_false, not_or] at hmark
            obtain ⟨hbrace, hpercent, hhash⟩ := hmark
            rw [findTag, if_neg hbrace, if_neg hhash, if_neg hpercent]
            exact ih hrest _
      · rw [findTag]
        · exact ih hrest _
        · intro d more heq
          exact absurd heq hc

/-! ### Inside a tag -/

theorem endLength?_of_head {c : Char} (hend : c ≠ '\x7d') (hminus : c ≠ '-') (s : List Char) :
    endLength? .variable (c :: s) = none := by
  simp [endLength?, dropPrefix?, hend.symm, hminus.symm]

theorem floatLength_of_start {c : Char} (hdigit : isDigit c = false) (s : List Char) :
    floatLength (c :: s) = 0 := by
  have hgroups : digitGroups (c :: s) = 0 := by
    rw [digitGroups.eq_def]
    simp [hdigit]
  rw [floatLength, hgroups]
  rfl

theorem integerLength_of_start {c : Char} (hzero : c ≠ '0') (hdigit : ¬('1' ≤ c ∧ c ≤ '9'))
    (s : List Char) : integerLength (c :: s) = 0 := by
  rw [integerLength, if_neg hdigit]
  exact fun heq => hzero heq

/-- **A name inside a tag**, up to the blank behind it. -/
theorem readInside_name {name : String} (hname : IsFreeName name) (lineBreak : List Char)
    {p : Place} {rest : List Char} (hp : p.rest = name.toList ++ ' ' :: rest) :
    readInside lineBreak [] p = .ok (.name name, name.toList.length, []) := by
  obtain ⟨c, cs, hcs⟩ := List.exists_cons_of_ne_nil hname.ne_nil
  obtain ⟨hdigit, hzero, hrange⟩ := not_digit_of_start (hname.start c (by rw [hcs]; rfl))
  have hhead : p.rest = c :: (cs ++ ' ' :: rest) := by rw [hp, hcs, List.cons_append]
  have hfloat : floatLength p.rest = 0 := by rw [hhead, floatLength_of_start hdigit]
  have hinteger : integerLength p.rest = 0 := by rw [hhead, integerLength_of_start hzero hrange]
  have hword : p.rest.takeWhile isWord = name.toList := by
    rw [hp]
    exact Document.takeWhile_append_of_head
      (fun ch hch => isWord_of_nameChar (hname.chars ch hch)) (by simp; decide)
  have hlength : name.toList.length ≠ 0 := by simp [hcs]
  have htake : p.rest.take name.toList.length = name.toList := by rw [hp, List.take_left]
  simp only [readInside, hfloat, hinteger, hword, htake, ite_self, ne_eq, not_true_eq_false,
    if_false, hlength, not_false_eq_true, if_true, String.ofList_toList]
  rw [hhead, List.head?_cons, Option.any_some, hdigit]
  rfl

/-! ### Steps of reading -/

/-- `n` steps of reading hand on some tokens, and lead to another mode and another place. -/
def Passes (lineBreak : List Char) (n : Nat) (mode : Mode) (p : Place) (ts : List Token)
    (mode' : Mode) (p' : Place) : Prop :=
  ∃ located : List Located, located.map (·.token) = ts ∧ ∀ fuel done,
    run lineBreak (fuel + n) done mode p = run lineBreak fuel (located.reverse ++ done) mode' p'

section Steps

variable {lineBreak : List Char} {mode mode' mode'' : Mode} {p p' p'' : Place}

theorem Passes.trans {m n : Nat} {ts us : List Token} (h : Passes lineBreak m mode p ts mode' p')
    (h' : Passes lineBreak n mode' p' us mode'' p'') :
    Passes lineBreak (n + m) mode p (ts ++ us) mode'' p'' := by
  obtain ⟨located, hlocated, hrun⟩ := h
  obtain ⟨located', hlocated', hrun'⟩ := h'
  refine ⟨located ++ located', by rw [List.map_append, hlocated, hlocated'], fun fuel done => ?_⟩
  rw [← Nat.add_assoc, hrun, hrun', List.reverse_append, List.append_assoc]

theorem passes_step {located : List Located}
    (h : step lineBreak mode p = .more located mode' p') :
    Passes lineBreak 1 mode p (located.map (·.token)) mode' p' :=
  ⟨located, rfl, fun fuel done => by rw [run, h]⟩

/-- The tokens of text: none if there is no text. -/
def textTokens (lineBreak s : List Char) : List Token :=
  if s = [] then [] else [.data (String.ofList (setBreaks lineBreak s))]

theorem unifyBreaks_eq_nil (s : List Char) : unifyBreaks s = [] ↔ s = [] := by
  rw [← List.head?_eq_none_iff, head?_unifyBreaks, Option.map_eq_none_iff, List.head?_eq_none_iff]

theorem map_token_dataToken (line : Nat) (s : List Char) :
    (dataToken lineBreak line false (unifyBreaks s)).map (·.token) = textTokens lineBreak s := by
  simp only [dataToken, textTokens, Bool.false_eq_true, if_false, unifyBreaks_eq_nil,
    withBreaks_unifyBreaks]
  split <;> rfl

theorem getLast?_unifyBreaks_ne {s : List Char} (h : s.getLast? ≠ some '\x7b') :
    (unifyBreaks s).getLast? ≠ some '\x7b' := by
  rw [getLast?_unifyBreaks]
  intro heq
  obtain ⟨c, hc, hbrace⟩ := Option.map_eq_some_iff.1 heq
  split at hbrace
  · exact absurd hbrace (by decide)
  · exact h (by rw [hc, hbrace])

variable (lineBreak)

/-- Text and the beginning of a tag behind it. -/
theorem passes_start {s rest : List Char} (hs : IsLiteral s) (hlast : s.getLast? ≠ some '\x7b')
    (hp : p.rest = unifyBreaks s ++ '\x7b' :: '\x7b' :: ' ' :: rest) :
    ∃ q : Place, q.rest = ' ' :: rest ∧ Passes lineBreak 1 .outside p
      (textTokens lineBreak s ++ [.variableStart]) (.inside .variable []) q := by
  have hstep : step lineBreak .outside p =
      .more (dataToken lineBreak p.line false (unifyBreaks s) ++
          [⟨.variableStart, (p.forward (unifyBreaks s).length).line⟩])
        (.inside .variable []) ((p.forward (unifyBreaks s).length).forward 2) := by
    rw [step, stepOutside, hp, findTag_literal hs.unifyBreaks (getLast?_unifyBreaks_ne hlast)]
    rfl
  refine ⟨(p.forward (unifyBreaks s).length).forward 2, ?_, ?_⟩
  · rw [rest_forward, rest_forward, hp, List.drop_left]
    rfl
  · have hpasses := passes_step hstep
    rwa [List.map_append, map_token_dataToken] at hpasses

/-- A step inside a tag that has not come to its end: a token, or blanks. -/
theorem step_inside {c : Char} {s : List Char} (hp : p.rest = c :: s) (hend : c ≠ '\x7d')
    (hminus : c ≠ '-') :
    step lineBreak (.inside .variable []) p =
      if p.skipBlanks.index ≠ p.index then .more [] (.inside .variable []) p.skipBlanks
      else
        match readInside lineBreak [] p with
        | .ok (t, n, expected) => .more [⟨t, p.line⟩] (.inside .variable expected) (p.forward n)
        | .error e => .failed e := by
  have hclose : endLength? .variable p.rest = none := by
    rw [hp, endLength?_of_head hend hminus]
  have hne : p.rest ≠ [] := by simp [hp]
  have hstep : step lineBreak (.inside .variable []) p =
      ((endLength? .variable p.rest).map fun n =>
        .more [⟨.variableEnd, p.line⟩] .outside (p.forward n)).getD
      (if p.skipBlanks.index ≠ p.index then .more [] (.inside .variable []) p.skipBlanks
      else if p.rest = [] then .last []
      else
        match readInside lineBreak [] p with
        | .ok (t, n, expected) => .more [⟨t, p.line⟩] (.inside .variable expected) (p.forward n)
        | .error e => .failed e) := rfl
  rw [hstep, hclose, Option.map_none, Option.getD_none, if_neg hne]

/-- A blank before a name or the end of a tag. -/
theorem passes_blank {c : Char} {s : List Char} (hp : p.rest = ' ' :: c :: s)
    (hc : isBlank c = false) :
    ∃ q : Place, q.rest = c :: s ∧
      Passes lineBreak 1 (.inside .variable []) p [] (.inside .variable []) q := by
  obtain ⟨hrest, hindex⟩ := skipBlanks_of_blank hp hc
  have hstep : step lineBreak (.inside .variable []) p =
      .more [] (.inside .variable []) p.skipBlanks := by
    rw [step_inside lineBreak hp (by decide) (by decide), if_pos (by omega)]
  exact ⟨p.skipBlanks, hrest, passes_step hstep⟩

theorem passes_name {name : String} (hname : IsFreeName name) {rest : List Char}
    (hp : p.rest = name.toList ++ ' ' :: rest) :
    ∃ q : Place, q.rest = ' ' :: rest ∧
      Passes lineBreak 1 (.inside .variable []) p [.name name] (.inside .variable []) q := by
  obtain ⟨c, cs, hcs⟩ := List.exists_cons_of_ne_nil hname.ne_nil
  have hchar := hname.chars c (by simp [hcs])
  have hhead : p.rest = c :: (cs ++ ' ' :: rest) := by rw [hp, hcs, List.cons_append]
  have hend : c ≠ '\x7d' ∧ c ≠ '-' :=
    of_nameChar (p := fun c => c ≠ '\x7d' ∧ c ≠ '-') (by decide) hchar
  have hstep : step lineBreak (.inside .variable []) p =
      .more [⟨.name name, p.line⟩] (.inside .variable []) (p.forward name.toList.length) := by
    rw [step_inside lineBreak hhead hend.1 hend.2,
      if_neg (not_not.2 (skipBlanks_of_head hhead (isBlank_of_nameChar hchar))),
      readInside_name hname lineBreak hp]
  refine ⟨p.forward name.toList.length, ?_, passes_step hstep⟩
  rw [rest_forward, hp, List.drop_left]

theorem passes_end {rest : List Char} (hp : p.rest = '\x7d' :: '\x7d' :: rest) :
    ∃ q : Place, q.rest = rest ∧
      Passes lineBreak 1 (.inside .variable []) p [.variableEnd] .outside q := by
  have hclose : endLength? .variable p.rest = some 2 := by
    rw [hp]
    rfl
  have hstep : step lineBreak (.inside .variable []) p =
      .more [⟨.variableEnd, p.line⟩] .outside (p.forward 2) := by
    simp only [step, stepInside, hclose, Option.map_some, if_true, Option.getD_some]
  refine ⟨p.forward 2, ?_, passes_step hstep⟩
  rw [rest_forward, hp]
  rfl

/-- **A gap is passed**, with the text before it. -/
theorem passes_gap {name : String} (hname : IsFreeName name) {s rest : List Char}
    (hs : IsLiteral s) (hlast : s.getLast? ≠ some '\x7b')
    (hp : p.rest = unifyBreaks s ++ '\x7b' :: '\x7b' :: ' ' ::
      (name.toList ++ ' ' :: '\x7d' :: '\x7d' :: rest)) :
    ∃ q : Place, q.rest = rest ∧ Passes lineBreak 5 .outside p
      (textTokens lineBreak s ++ [.variableStart, .name name, .variableEnd]) .outside q := by
  obtain ⟨c, cs, hcs⟩ := List.exists_cons_of_ne_nil hname.ne_nil
  have hblank := isBlank_of_nameChar (hname.chars c (by simp [hcs]))
  obtain ⟨p₁, hp₁, hstart⟩ := passes_start lineBreak hs hlast hp
  rw [hcs, List.cons_append] at hp₁
  obtain ⟨p₂, hp₂, hbefore⟩ := passes_blank lineBreak hp₁ hblank
  rw [← List.cons_append, ← hcs] at hp₂
  obtain ⟨p₃, hp₃, hprinted⟩ := passes_name lineBreak hname hp₂
  obtain ⟨p₄, hp₄, hbehind⟩ := passes_blank lineBreak hp₃ (by decide)
  obtain ⟨p₅, hp₅, hend⟩ := passes_end lineBreak hp₄
  have hall := (((hstart.trans hbefore).trans hprinted).trans hbehind).trans hend
  exact ⟨p₅, hp₅, by simpa using hall⟩

end Steps

/-! ### Outlines -/

/-- **The tokens that an outline is read as.** -/
def Outline.tokens (lineBreak : List Char) : Outline → List Token
  | .text s => textTokens lineBreak s
  | .gap s name rest =>
      textTokens lineBreak s ++ [.variableStart, .name name, .variableEnd] ++ rest.tokens lineBreak

/-- An outline is read from any place on, in five steps for each gap and one at the end. -/
theorem run_source {o : Outline} (ho : o.IsPlain) (lineBreak : List Char) {p : Place}
    (hp : p.rest = unifyBreaks o.source) (fuel : Nat) (done : List Located) :
    ∃ located : List Located, located.map (·.token) = o.tokens lineBreak ∧
      run lineBreak (fuel + 1 + 5 * o.names.length) done .outside p =
        ⟨done.reverse ++ located, none⟩ := by
  induction o generalizing p done with
  | text s =>
      refine ⟨dataToken lineBreak p.line false (unifyBreaks s), map_token_dataToken _ s, ?_⟩
      have hstep : step lineBreak .outside p =
          .last (dataToken lineBreak p.line false (unifyBreaks s)) := by
        rw [step, stepOutside, hp, Outline.source, findTag_eq_none ho.unifyBreaks]
      simp only [Outline.names, List.length_nil, Nat.mul_zero, Nat.add_zero, run, hstep,
        List.reverse_append, List.reverse_reverse]
  | gap s name rest ih =>
      obtain ⟨hs, hlast, hname, hrest⟩ := ho
      rw [Outline.source, unifyBreaks_gap hname] at hp
      obtain ⟨q, hq, first, hfirst, hpasses⟩ := passes_gap lineBreak hname hs hlast hp
      obtain ⟨located, hlocated, hrun⟩ := ih hrest hq (first.reverse ++ done)
      refine ⟨first ++ located, by rw [List.map_append, hfirst, hlocated, Outline.tokens], ?_⟩
      rw [Outline.names, List.length_cons, Nat.mul_add, ← Nat.add_assoc, hpasses, hrun]
      simp

/-- Each gap takes more characters than steps of reading. -/
theorem length_unifyBreaks_source {o : Outline} (ho : o.IsPlain) :
    5 * o.names.length ≤ (unifyBreaks o.source).length := by
  induction o with
  | text s => simp [Outline.names]
  | gap s name rest ih =>
      obtain ⟨-, -, hname, hrest⟩ := ho
      have hlength := ih hrest
      rw [Outline.source, unifyBreaks_gap hname, Outline.names]
      simp only [List.length_append, List.length_cons]
      omega

/-- **An outline is read as its tokens.** -/
theorem tokensOf_source {o : Outline} (ho : o.IsPlain) (lineBreak : List Char) :
    ∃ located : List Located, located.map (·.token) = o.tokens lineBreak ∧
      tokensOf lineBreak (unifyBreaks o.source) = ⟨located, none⟩ := by
  have hlength := length_unifyBreaks_source ho
  obtain ⟨fuel, hfuel⟩ := Nat.exists_eq_add_of_le
    (show 1 + 5 * o.names.length ≤ 2 * (unifyBreaks o.source).length + 4 by omega)
  obtain ⟨located, hlocated, hrun⟩ := run_source ho lineBreak (p := .start _) rfl fuel []
  refine ⟨located, hlocated, ?_⟩
  rw [tokensOf, hfuel, Nat.add_comm (1 + _), ← Nat.add_assoc, hrun]
  rfl

end EntryTemplates.Render
