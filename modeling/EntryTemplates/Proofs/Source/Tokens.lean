/-
**Brackets among the tokens of a text.**

C++ text is made of tokens.  When they are printed with blanks or line feeds between them, stripping
takes out the comments and literals among them and keeps the rest, with one exception.  A single
quote between the digits of a number separates them, but it is taken for the quote of a character
literal: two such separators on a line make a literal of what stands between them.  So brackets are
told apart from what is no code as long as no bracket, comment or literal stands there.

Main definitions:

* `EntryTemplates.Source.Token`, `EntryTemplates.Source.Piece` — tokens, and tokens with what is
  printed behind them;
* `EntryTemplates.Source.printed`, `EntryTemplates.Source.brackets` — a text of tokens, and the
  brackets among them;
* `EntryTemplates.Source.Unobscured` — between two separators stand plain tokens only.

Main results:

* `EntryTemplates.Source.Pending.plain` — what reading plain characters does;
* `EntryTemplates.Source.word_printed` — **what is found are the brackets among the tokens**;
* `EntryTemplates.Source.unobscured_of_even` — an even number of separators obscures nothing;
* `EntryTemplates.Source.imbalance?_printed` — **balanced tokens pass, and no others**;
* `EntryTemplates.Source.separated_bracket_lost` — a bracket between two separators.
-/

import EntryTemplates.Proofs.Source.Brackets
import EntryTemplates.Proofs.Source.Lexemes

set_option relaxedAutoImplicit false
set_option autoImplicit false

namespace EntryTemplates.Source

open EntryTemplates.Text

/-! ### Tokens -/

/-- A word that does not begin with a digit. -/
def IsIdentifier (name : List Char) : Prop :=
  ∃ c rest, name = c :: rest ∧ c.isDigit = false ∧ ∀ d ∈ name, isWord d = true

/-- What a number goes on with: digits, letters and points, digits and letters behind a separator,
and the signs of an exponent. -/
inductive GoesOn : List Char → Prop where
  | nil : GoesOn []
  | char {c : Char} {rest : List Char} (hc : isWord c = true ∨ c = '.') (h : GoesOn rest) :
      GoesOn (c :: rest)
  | separator {c : Char} {rest : List Char} (hc : isWord c = true) (h : GoesOn rest) :
      GoesOn ('\'' :: c :: rest)
  | exponent {e sign : Char} {rest : List Char} (he : e ∈ ['e', 'E', 'p', 'P'])
      (hsign : sign ∈ ['+', '-']) (h : GoesOn rest) : GoesOn (e :: sign :: rest)

/-- A number begins with a digit, or with a point and a digit. -/
inductive IsNumber : List Char → Prop where
  | digit {d : Char} {rest : List Char} (hd : d.isDigit = true) (h : GoesOn rest) :
      IsNumber (d :: rest)
  | point {d : Char} {rest : List Char} (hd : d.isDigit = true) (h : GoesOn rest) :
      IsNumber ('.' :: d :: rest)

/-- Characters that begin and end no comment, literal or line, and are no brackets. -/
def isBare (c : Char) : Bool := !(c ∈ ['/', '"', '\'', '\\', '\n'] || isBracket c)

/-- Punctuation that contains no slash, no quote and no bracket. -/
def IsPunctuation (text : List Char) : Prop :=
  text ≠ [] ∧ ∀ c ∈ text, isBare c = true ∧ isWord c = false ∧ isBlank c = false

/-- The tokens of a text, with comments among them. -/
inductive Token where
  | identifier (name : List Char) (h : IsIdentifier name)
  | number (text : List Char) (h : IsNumber text)
  | punctuation (text : List Char) (h : IsPunctuation text)
  | bracket (c : Char) (h : isBracket c = true)
  | string (body : List Char) (h : IsLiteralBody '"' body)
  | character (body : List Char) (h : IsLiteralBody '\'' body)
  | lineComment (body : List Char) (h : '\n' ∉ body)
  | blockComment (body : List Char) (h : occursIn ['*', '/'] body = false)

namespace Token

/-- The text of a token. -/
def text : Token → List Char
  | identifier name _ => name
  | number text _ => text
  | punctuation text _ => text
  | bracket c _ => [c]
  | string body _ => '"' :: body ++ ['"']
  | character body _ => '\'' :: body ++ ['\'']
  | lineComment body _ => '/' :: '/' :: body
  | blockComment body _ => '/' :: '*' :: body ++ ['*', '/']

/-- The bracket that a token is, if it is one. -/
def brackets : Token → List Char
  | bracket c _ => [c]
  | _ => []

/-- Identifiers, numbers and punctuation. -/
def isPlain : Token → Bool
  | identifier _ _ => true
  | number _ _ => true
  | punctuation _ _ => true
  | _ => false

/-- Line comments. -/
def isLineComment : Token → Bool
  | lineComment _ _ => true
  | _ => false

end Token

/-- A token, and the blank or line feed in front of the next one. -/
structure Piece where
  token : Token
  gap : Char
  gap_mem : gap = ' ' ∨ gap = '\n'
  /-- The line of a line comment ends. -/
  ends : token.isLineComment = true → gap = '\n'

/-- The text of some tokens; what stands behind the last one is not printed. -/
def printed : List Piece → List Char
  | [] => []
  | p :: rest => p.token.text ++ if rest.isEmpty then [] else p.gap :: printed rest

/-- The brackets among some tokens. -/
def brackets (pieces : List Piece) : List Char := pieces.flatMap (·.token.brackets)

/-! ### Separators that are left open -/

/-- Whether the number of single quotes in a text is odd. -/
def isOdd (text : List Char) : Bool := text.count '\'' % 2 = 1

/-- A text that would close a character literal. -/
def Closes (s : List Char) : Prop :=
  ∃ body after, IsLiteralBody '\'' body ∧ s = body ++ '\'' :: after

/-- Between a separator that is left open and the next single quote on its line stand plain tokens
only: any other token comes where no separator is left open, or where there is no such quote.
`pending` tells whether a separator in front of the tokens is left open. -/
def Unobscured (pending : Bool) : List Piece → Prop
  | [] => True
  | p :: rest =>
      if p.token.isPlain then
        Unobscured (p.gap = ' ' && (pending ^^ isOdd p.token.text)) rest
      else (pending = true → ¬ Closes (printed (p :: rest))) ∧ Unobscured false rest

/-! ### Words of texts -/

variable {s mid more front text : List Char} {c : Char} {b : Bool}

theorem isBare_iff : isBare c = true ↔ c ∉ ['/', '"', '\'', '\\', '\n'] ∧ isBracket c = false := by
  simp [isBare]

theorem lexeme?_bare (hc : isBare c = true) (rest : List Char) : lexeme? (c :: rest) = none := by
  have hnot := (isBare_iff.1 hc).1
  exact lexeme?_of_not_opener (fun hmem => hnot (List.mem_append_left ['\\', '\n'] hmem)) rest

theorem word_cons_of_plain (hread : lexeme? (c :: s) = none) (hc : isBracket c = false) :
    word (c :: s) = word s := by
  rw [word, strip_of_plain hread, List.filter_cons_of_neg (by simp [hc])]
  rfl

theorem word_bare (hmid : ∀ c ∈ mid, isBare c = true) (more : List Char) :
    word (mid ++ more) = word more := by
  induction mid with
  | nil => rfl
  | cons c mid ih =>
      obtain ⟨hc, hmid⟩ := List.forall_mem_cons.1 hmid
      rw [List.cons_append, word_cons_of_plain (lexeme?_bare hc _) (isBare_iff.1 hc).2, ih hmid]

theorem isLiteralBody_bare (hmid : ∀ c ∈ mid, isBare c = true) : IsLiteralBody '\'' mid := by
  induction mid with
  | nil => exact .nil
  | cons c mid ih =>
      obtain ⟨hc, hmid⟩ := List.forall_mem_cons.1 hmid
      have hnot := (isBare_iff.1 hc).1
      simp only [List.mem_cons, not_or] at hnot
      exact .plain hnot.2.2.1 hnot.2.2.2.1 hnot.2.2.2.2.1 (ih hmid)

/-- A complete comment or literal holds no bracket of the text. -/
theorem word_of_complete (ht : IsComplete text) (hfollow : CanFollow text more) :
    word (text ++ more) = word more := by
  have hfeeds : (lineFeeds text).filter isBracket = [] := by
    rw [List.filter_eq_nil_iff]
    intro c hc
    rw [List.eq_of_mem_replicate hc]
    decide
  rw [word, strip_of_complete ht hfollow, List.filter_append, hfeeds]
  rfl

/-! ### Reading tokens -/

theorem isOdd_cons_bare (hc : isBare c = true) (text : List Char) :
    isOdd (c :: text) = isOdd text := by
  have hquote : c ≠ '\'' := fun heq => (isBare_iff.1 hc).1 (by simp [heq])
  rw [isOdd, isOdd, List.count_cons_of_ne hquote]

theorem isOdd_cons_quote (text : List Char) : isOdd ('\'' :: text) = !isOdd text := by
  rw [isOdd, isOdd, List.count_cons_self, ← decide_not, decide_eq_decide]
  omega

theorem closes_iff : Closes s ↔ (closeQuote? '\'' s).isSome = true := by
  rw [Option.isSome_iff_exists]
  constructor
  · rintro ⟨body, after, hbody, rfl⟩
    exact ⟨(body ++ ['\''], after),
      (closeQuote?_eq_some (by decide)).2 ⟨body, hbody, rfl, by simp⟩⟩
  · rintro ⟨⟨closed, after⟩, h⟩
    obtain ⟨body, hbody, rfl, rfl⟩ := (closeQuote?_eq_some (by decide)).1 h
    exact ⟨body, after, hbody, by simp⟩

instance (s : List Char) : Decidable (Closes s) := decidable_of_iff _ closes_iff.symm

instance decidableUnobscured : (pending : Bool) → (pieces : List Piece) →
    Decidable (Unobscured pending pieces)
  | _, [] => isTrue trivial
  | pending, p :: rest =>
      have := decidableUnobscured (p.gap = ' ' && (pending ^^ isOdd p.token.text)) rest
      have := decidableUnobscured false rest
      inferInstanceAs (Decidable (if p.token.isPlain = true then
        Unobscured (p.gap = ' ' && (pending ^^ isOdd p.token.text)) rest
        else (pending = true → ¬ Closes (printed (p :: rest))) ∧ Unobscured false rest))

/-- A text closes a literal behind bare characters as well. -/
theorem closes_append (hmid : ∀ c ∈ mid, isBare c = true) :
    Closes (mid ++ more) ↔ Closes more := by
  induction mid with
  | nil => rfl
  | cons c mid ih =>
      obtain ⟨hc, hmid⟩ := List.forall_mem_cons.1 hmid
      have hnot := (isBare_iff.1 hc).1
      simp only [List.mem_cons, not_or] at hnot
      rw [← ih hmid, closes_iff, closes_iff, List.cons_append,
        closeQuote?_plain hnot.2.2.1 hnot.2.2.2.1 hnot.2.2.2.2.1, extend, Option.isSome_map]

/-- The end of a line closes no literal. -/
theorem not_closes_lineFeed (s : List Char) : ¬ Closes ('\n' :: s) := by
  rintro ⟨body, after, hbody, heq⟩
  cases hbody with
  | nil => exact absurd (List.cons.inj heq).1 (by decide)
  | escape => exact absurd (List.cons.inj heq).1 (by decide)
  | plain _ _ hbreak => exact hbreak (List.cons.inj heq).1.symm

theorem not_closes_nil : ¬ Closes [] := by
  rintro ⟨body, after, -, heq⟩
  exact absurd heq (by simp)

/-- A separator that is left open, with the bare characters behind it; or none. -/
inductive Pending : Bool → List Char → Prop where
  | none : Pending false []
  | separator {mid : List Char} (hmid : ∀ c ∈ mid, isBare c = true) : Pending true ('\'' :: mid)

/-- Reading a text behind `front` is reading what follows it behind `front'`. -/
def Reads (front text front' : List Char) : Prop :=
  ∀ more, word (front ++ (text ++ more)) = word (front' ++ more)

namespace Pending

/-- A separator that no other one closes is kept. -/
theorem word_append (h : Pending b front) (hcloses : b = true → ¬ Closes more) :
    word (front ++ more) = word more := by
  cases h with
  | none => rfl
  | @separator mid hmid =>
      have hread : lexeme? ('\'' :: (mid ++ more)) = Option.none := by
        have hnot := hcloses rfl
        rw [← closes_append hmid, closes_iff, Bool.not_eq_true, Option.isSome_eq_false_iff,
          Option.isNone_iff_eq_none] at hnot
        rw [lexeme?, hnot]
        rfl
      rw [List.cons_append, word_cons_of_plain hread (by decide), word_bare hmid]

theorem word_nil (h : Pending b front) : word (front ++ []) = [] := by
  rw [h.word_append fun _ => not_closes_nil, word, strip_nil]
  rfl

/-- A bare character leaves a separator open. -/
theorem bare (h : Pending b front) (hc : isBare c = true) :
    ∃ front', Pending b front' ∧ Reads front [c] front' := by
  cases h with
  | none => exact ⟨[], .none, fun more => word_bare (List.forall_mem_singleton.2 hc) more⟩
  | @separator mid hmid =>
      refine ⟨'\'' :: (mid ++ [c]), .separator ?_, fun more => by simp⟩
      exact List.forall_mem_append.2 ⟨hmid, List.forall_mem_singleton.2 hc⟩

/-- A separator closes the one that is left open, and is left open if there is none. -/
theorem quote (h : Pending b front) :
    ∃ front', Pending (!b) front' ∧ Reads front ['\''] front' := by
  cases h with
  | none => exact ⟨['\''], .separator (by simp), fun more => rfl⟩
  | @separator mid hmid =>
      refine ⟨[], .none, fun more => ?_⟩
      have hcomplete : IsComplete ('\'' :: mid ++ ['\'']) := .character (isLiteralBody_bare hmid)
      have hword : word ('\'' :: mid ++ ['\''] ++ more) = word more :=
        word_of_complete hcomplete fun hline => absurd hline (by simp)
      rw [List.nil_append, ← hword, List.append_assoc]

/-- **What reading plain characters does**: every other single quote among them closes the one
before. -/
theorem plain (h : Pending b front) (htext : ∀ c ∈ text, isBare c = true ∨ c = '\'') :
    ∃ front', Pending (b ^^ isOdd text) front' ∧ Reads front text front' := by
  induction text generalizing b front with
  | nil => exact ⟨front, by simpa [isOdd] using h, fun more => rfl⟩
  | cons c text ih =>
      obtain ⟨hc, hrest⟩ := List.forall_mem_cons.1 htext
      rcases hc with hc | rfl
      · obtain ⟨front', h', hread⟩ := h.bare hc
        obtain ⟨front'', h'', hread'⟩ := ih h' hrest
        refine ⟨front'', ?_, fun more => ?_⟩
        · rw [isOdd_cons_bare hc]
          exact h''
        · exact (hread (text ++ more)).trans (hread' more)
      · obtain ⟨front', h', hread⟩ := h.quote
        obtain ⟨front'', h'', hread'⟩ := ih h' hrest
        refine ⟨front'', ?_, fun more => ?_⟩
        · rw [isOdd_cons_quote, Bool.xor_not, ← Bool.not_xor]
          exact h''
        · exact (hread (text ++ more)).trans (hread' more)

end Pending

/-! ### The characters of tokens -/

theorem isBare_of_isWord (hc : isWord c = true) : isBare c = true := by
  rw [isBare_iff]
  constructor
  · intro hmem
    simp only [List.mem_cons, List.not_mem_nil, or_false] at hmem
    obtain rfl | rfl | rfl | rfl | rfl := hmem <;> exact absurd hc (by decide)
  · by_contra hbracket
    have hmem := mem_of_isBracket (by simpa using hbracket)
    simp only [List.mem_cons, List.not_mem_nil, or_false] at hmem
    obtain rfl | rfl | rfl | rfl | rfl | rfl := hmem <;> exact absurd hc (by decide)

theorem isWord_of_isDigit (hc : c.isDigit = true) : isWord c = true := by
  rw [isWord, Char.isAlphanum, hc]
  simp

theorem GoesOn.plain (h : GoesOn text) : ∀ c ∈ text, isBare c = true ∨ c = '\'' := by
  induction h with
  | nil => simp
  | char hc _ ih =>
      refine List.forall_mem_cons.2 ⟨Or.inl ?_, ih⟩
      obtain hc | rfl := hc
      · exact isBare_of_isWord hc
      · decide
  | separator hc _ ih =>
      exact List.forall_mem_cons.2
        ⟨Or.inr rfl, List.forall_mem_cons.2 ⟨Or.inl (isBare_of_isWord hc), ih⟩⟩
  | exponent he hsign _ ih =>
      refine List.forall_mem_cons.2 ⟨Or.inl ?_, List.forall_mem_cons.2 ⟨Or.inl ?_, ih⟩⟩
      · simp only [List.mem_cons, List.not_mem_nil, or_false] at he
        obtain rfl | rfl | rfl | rfl := he <;> decide
      · simp only [List.mem_cons, List.not_mem_nil, or_false] at hsign
        obtain rfl | rfl := hsign <;> decide

theorem IsNumber.plain (h : IsNumber text) : ∀ c ∈ text, isBare c = true ∨ c = '\'' := by
  cases h with
  | digit hd hmore =>
      have hdigit := isBare_of_isWord (isWord_of_isDigit hd)
      exact List.forall_mem_cons.2 ⟨Or.inl hdigit, hmore.plain⟩
  | point hd hmore =>
      have hdigit := isBare_of_isWord (isWord_of_isDigit hd)
      have hpoint : isBare '.' = true := by decide
      exact List.forall_mem_cons.2
        ⟨Or.inl hpoint, List.forall_mem_cons.2 ⟨Or.inl hdigit, hmore.plain⟩⟩

theorem Token.plain {t : Token} (h : t.isPlain = true) :
    ∀ c ∈ t.text, isBare c = true ∨ c = '\'' := by
  cases t with
  | identifier name hname =>
      obtain ⟨-, -, -, -, hword⟩ := hname
      intro c hc
      exact Or.inl (isBare_of_isWord (hword c hc))
  | number text htext => exact htext.plain
  | punctuation text htext =>
      intro c hc
      exact Or.inl (htext.2 c hc).1
  | bracket => cases h
  | string => cases h
  | character => cases h
  | lineComment => cases h
  | blockComment => cases h

theorem Token.brackets_of_isPlain {t : Token} (h : t.isPlain = true) : t.brackets = [] := by
  cases t <;> first | rfl | exact absurd h (by simp [Token.isPlain])

/-- What is found in a token that is not plain. -/
theorem Token.word_append {t : Token} (h : t.isPlain = false)
    (hline : t.isLineComment = true → more = [] ∨ ∃ rest, more = '\n' :: rest) :
    word (t.text ++ more) = t.brackets ++ word more := by
  cases t with
  | identifier => cases h
  | number => cases h
  | punctuation => cases h
  | bracket c hc =>
      have hopener : c ∉ ['/', '"', '\''] := by
        have hmem := mem_of_isBracket hc
        simp only [List.mem_cons, List.not_mem_nil, or_false] at hmem
        obtain rfl | rfl | rfl | rfl | rfl | rfl := hmem <;> decide
      change word (c :: more) = [c] ++ word more
      rw [word, strip_of_plain (lexeme?_of_not_opener hopener more), List.filter_cons_of_pos hc]
      rfl
  | string body hbody =>
      have hfollow : CanFollow ('"' :: body ++ ['"']) more := fun hline => absurd hline (by simp)
      exact word_of_complete (.string hbody) hfollow
  | character body hbody =>
      have hfollow : CanFollow ('\'' :: body ++ ['\'']) more := fun hline => absurd hline (by simp)
      exact word_of_complete (.character hbody) hfollow
  | lineComment body hbody => exact word_of_complete (.lineComment hbody) fun _ => hline rfl
  | blockComment body hbody =>
      have hfollow : CanFollow ('/' :: '*' :: body ++ ['*', '/']) more :=
        fun hline => absurd hline (by simp)
      exact word_of_complete (.blockComment hbody) hfollow

/-! ### Reading texts of tokens -/

/-- What is printed behind a token. -/
def behind (p : Piece) (rest : List Piece) : List Char :=
  if rest.isEmpty then [] else p.gap :: printed rest

theorem printed_cons (p : Piece) (rest : List Piece) :
    printed (p :: rest) = p.token.text ++ behind p rest := by
  rw [printed, behind]

theorem brackets_cons (p : Piece) (rest : List Piece) :
    brackets (p :: rest) = p.token.brackets ++ brackets rest := List.flatMap_cons

/-- Behind a token the pieces that follow it are read, whatever stands between them. -/
theorem Pending.word_behind {p : Piece} {rest : List Piece} (h : Pending b front)
    (hrest : Unobscured (p.gap = ' ' && b) rest)
    (hread : ∀ {b front}, Pending b front → Unobscured b rest →
      word (front ++ printed rest) = brackets rest) :
    word (front ++ behind p rest) = brackets rest := by
  rw [behind]
  cases hempty : rest.isEmpty with
  | true =>
      rw [List.isEmpty_iff.1 hempty, if_pos rfl]
      exact h.word_nil
  | false =>
      rw [if_neg (by simp)]
      obtain hgap | hgap := p.gap_mem
      · rw [hgap] at hrest ⊢
        obtain ⟨front', h', hblank⟩ := h.bare (c := ' ') (by decide)
        have hmore := hblank (printed rest)
        rw [List.singleton_append] at hmore
        rw [hmore]
        exact hread h' (by simpa using hrest)
      · rw [hgap] at hrest ⊢
        rw [h.word_append fun _ => not_closes_lineFeed _, word_cons_of_plain rfl (by decide)]
        exact hread .none (by simpa using hrest)

/-- **What is found are the brackets among the tokens.** -/
theorem word_printed {pieces : List Piece} (h : Pending b front) (hpieces : Unobscured b pieces) :
    word (front ++ printed pieces) = brackets pieces := by
  -- a token and what is printed behind it at a time
  induction pieces generalizing b front with
  | nil => exact h.word_nil
  | cons p rest ih =>
      rw [Unobscured] at hpieces
      rw [printed_cons, brackets_cons]
      cases hplain : p.token.isPlain with
      | true =>
          rw [if_pos hplain] at hpieces
          obtain ⟨front', h', hread⟩ := h.plain (Token.plain hplain)
          rw [hread, Token.brackets_of_isPlain hplain, List.nil_append]
          exact h'.word_behind hpieces ih
      | false =>
          rw [if_neg (by simp [hplain]), printed_cons] at hpieces
          obtain ⟨hcloses, hrest⟩ := hpieces
          have hline : p.token.isLineComment = true →
              behind p rest = [] ∨ ∃ more, behind p rest = '\n' :: more := by
            intro hcomment
            rw [behind, p.ends hcomment]
            cases rest.isEmpty with
            | true => exact Or.inl rfl
            | false => exact Or.inr ⟨_, rfl⟩
          have hbehind : word (behind p rest) = brackets rest :=
            Pending.none.word_behind (by simpa using hrest) ih
          rw [h.word_append hcloses, Token.word_append hplain hline, hbehind]

/-- Numbers with an even number of separators obscure nothing. -/
theorem unobscured_of_even {pieces : List Piece}
    (h : ∀ p ∈ pieces, p.token.isPlain = true → isOdd p.token.text = false) :
    Unobscured false pieces := by
  induction pieces with
  | nil => trivial
  | cons p rest ih =>
      obtain ⟨hp, hrest⟩ := List.forall_mem_cons.1 h
      rw [Unobscured]
      split
      · rename_i hplain
        rw [hp hplain]
        simpa using ih hrest
      · exact ⟨fun hpending => absurd hpending (by simp), ih hrest⟩

/-- **Balanced tokens pass, and no others.** -/
theorem imbalance?_printed (pieces : List Piece) (h : Unobscured false pieces) :
    imbalance? (printed pieces) = none ↔ Balanced (brackets pieces) := by
  have hword : word (printed pieces) = brackets pieces := word_printed .none h
  rw [imbalance?_eq_none_iff, hword]

/-- A number with one separator. -/
def thousand : Token :=
  .number ['1', '\'', '0', '0', '0'] (.digit rfl (.separator (by decide)
    (.char (Or.inl (by decide)) (.char (Or.inl (by decide)) .nil))))

/-- A token with a blank behind it. -/
def spaced (token : Token) (h : token.isLineComment = false) : Piece where
  token
  gap := ' '
  gap_mem := Or.inl rfl
  ends hline := absurd hline (by simp [h])

theorem isPunctuation_comma : IsPunctuation [','] := by
  refine ⟨List.cons_ne_nil _ _, fun c hc => ?_⟩
  rw [List.mem_singleton.1 hc]
  exact ⟨rfl, rfl, rfl⟩

/-- Two numbers with a comma between them, and the brackets around them. -/
def separatedComma : List Piece :=
  [spaced (.bracket '(' rfl) rfl, spaced thousand rfl,
    spaced (.punctuation [','] isPunctuation_comma) rfl, spaced thousand rfl,
    spaced (.bracket ')' rfl) rfl]

/-- A comma between two separators does not matter. -/
theorem imbalance?_printed_comma :
    Unobscured false separatedComma ∧ imbalance? (printed separatedComma) = none := by
  have h : Unobscured false separatedComma := by decide
  exact ⟨h, (imbalance?_printed separatedComma h).2 (.wrap (u := []) rfl .nil)⟩

/-- An opening bracket between two numbers. -/
def separatedBracket : List Piece :=
  [spaced thousand rfl, spaced (.bracket '(' rfl) rfl, spaced thousand rfl]

/-- **A bracket between two separators** is not found, and left open without a report. -/
theorem separated_bracket_lost :
    printed separatedBracket = "1'000 ( 1'000".toList ∧
      imbalance? (printed separatedBracket) = none ∧ ¬ Balanced (brackets separatedBracket) := by
  refine ⟨by decide, by decide +kernel, fun h => ?_⟩
  have hstack : pairLine 1 [] (brackets separatedBracket) = .ok [] := h.pairLine
  exact absurd hstack (by decide)

end EntryTemplates.Source
