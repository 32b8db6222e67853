/-
**The tokens of a written document.**

Main definitions:

* `EntryTemplates.Document.IsEntryName` — the names that an entry may have;
* `EntryTemplates.Document.ValueRead` — what is read for the text of an entry, and in which form;
* `EntryTemplates.Document.Scan.AtEntry` — the state of reading tokens between two entries.

Main results:

* `EntryTemplates.Document.Scan.hands_name`, `EntryTemplates.Document.Scan.hands_value` — the name
  and the text of an entry;
* `EntryTemplates.Document.tokens_write` — **the tokens of a written document**.
-/

import EntryTemplates.Proofs.Document.Scanning

set_option relaxedAutoImplicit false
set_option autoImplicit false

namespace EntryTemplates.Document

open Cursor

/-! ### Names -/

/-- The names that an entry may have: lower-case letters that mean nothing else. -/
structure IsEntryName (name : String) : Prop where
  ne : name.toList ≠ []
  lower : ∀ ch ∈ name.toList, ch.isLower = true
  short : name.toList.length ≤ 1024
  text : resolve name = .str

theorem ne_of_isLower {ch : Char} (h : ch.isLower = true) {d : Char} (hd : d.isLower = false) :
    ch ≠ d := by
  rintro rfl
  rw [h] at hd
  exact absurd hd (by decide)

theorem isBreak_of_isLower {ch : Char} (h : ch.isLower = true) : isBreak ch = false := by
  simp [isBreak, ne_of_isLower h]

theorem isBlankOrEnd_of_isLower {ch : Char} (h : ch.isLower = true) : isBlankOrEnd ch = false := by
  simp [isBlankOrEnd, isSpaceOrEnd, isBreakOrEnd, isBreak_of_isLower h, ne_of_isLower h]

/-- A run of letters moves the cursor along its line. -/
theorem forward_letters {run next : List Char} (hrun : ∀ ch ∈ run, ch.isLower = true)
    {c : Cursor} (hc : c.rest = run ++ next) :
    (c.forward run.length).line = c.line ∧ (c.forward run.length).index = c.index + run.length := by
  induction run generalizing c with
  | nil => exact ⟨rfl, rfl⟩
  | cons ch run ih =>
      have hch : ch.isLower = true := hrun ch (by simp)
      have hstep : c.step.rest = run ++ next := rest_step_of_cons hc
      obtain ⟨hline, hindex⟩ := ih (fun d hd => hrun d (List.mem_cons_of_mem _ hd)) hstep
      rw [List.length_cons, forward_succ, hline, hindex,
        line_step hc (isBreak_of_isLower hch) (ne_of_isLower hch (by decide)), index_step hc]
      exact ⟨rfl, by omega⟩

/-- A name is a word that ends at the colon behind it. -/
theorem readPlain_name {name next : List Char} (hne : name ≠ [])
    (hname : ∀ ch ∈ name, ch.isLower = true) {c : Cursor} (hc : c.rest = name ++ ':' :: ' ' :: next)
    (indent : Int) :
    readPlain false indent c =
      (.scalar (String.ofList name) .plain, false, c.forward name.length) := by
  have hword : plainWord false c.rest = name := by
    rw [hc]
    clear hne hc
    induction name with
    | nil => simp [plainWord, endsPlain, isBlankOrEnd, isSpaceOrEnd]
    | cons ch name ih =>
        have hch : ch.isLower = true := hname ch (by simp)
        have hcolon : ch ≠ ':' := ne_of_isLower hch (by decide)
        rw [List.cons_append, plainWord, ih fun d hd => hname d (List.mem_cons_of_mem _ hd)]
        simp [endsPlain, isBlankOrEnd_of_isLower hch, hcolon]
  have hmoved : (c.forward name.length).rest = ':' :: ' ' :: next := by
    rw [rest_forward, hc, List.drop_left]
  have hspaces : plainSpaces (c.forward name.length) = ([], false, c.forward name.length) := by
    have hspan : (c.forward name.length).span (fun ch => decide (ch = ' '))
        = ([], c.forward name.length) := span_of_head (by rw [hmoved]; simp)
    simp [plainSpaces, hspan, peek_of_cons hmoved, isBreak]
  have hcomment : c.peek ≠ '#' := by
    obtain ⟨first, others, rfl⟩ := List.exists_cons_of_ne_nil hne
    rw [peek_of_cons hc]
    exact ne_of_isLower (hname first (by simp)) (by decide)
  rw [readPlain, plainWords, if_neg hcomment]
  simp [hword, hne, hspaces]

namespace Scan

/-! ### Between two entries -/

/-- Between two entries, with `input` ahead; `opened` tells that the mapping has begun. -/
structure AtEntry (opened : Bool) (input : List Char) (s : Scan) : Prop where
  queue : s.queue = []
  level : s.level = 0
  keys : s.keys = []
  done : s.done = false
  indent : s.indent = if opened then 0 else -1
  outer : s.outer = if opened then [-1] else []
  next : ∃ c : Cursor, c.rest = input ∧ c.column = 0 ∧
    s.toNextToken = { s with cursor := c, keyAllowed := true }

/-- Behind the colon of an entry, with `input` ahead. -/
structure AtValue (input : List Char) (s : Scan) : Prop where
  queue : s.queue = []
  level : s.level = 0
  keys : s.keys = []
  done : s.done = false
  indent : s.indent = 0
  outer : s.outer = [-1]
  keyAllowed : s.keyAllowed = false
  rest : s.cursor.rest = ' ' :: input

/-- The marks that stand before the first key. -/
def openingMarks (opened : Bool) : List Token := if opened then [] else [.blockMappingStart]

theorem AtEntry.settled {opened : Bool} {input : List Char} {s : Scan}
    (hs : s.AtEntry opened input) :
    ∃ c : Cursor, c.rest = input ∧ c.column = 0 ∧
      Settled s { s with cursor := c, keyAllowed := true } := by
  obtain ⟨c, hrest, hcolumn, hnext⟩ := hs.next
  refine ⟨c, hrest, hcolumn, hnext, dropStale_of_nil hs.keys, ?_⟩
  have := hs.indent
  cases opened <;> simp_all

/-- The key that is noted where the scan `s` stands, if the cursor is at `c`. -/
def keyAt (s : Scan) (c : Cursor) : PendingKey :=
  { level := 0
    token := s.taken
    required := decide (s.indent = 0)
    index := c.index
    line := c.line
    column := 0 }

/-- The state after a name that began at the cursor `c`. -/
def afterName (s : Scan) (name : String) (c : Cursor) : Scan :=
  { s with
    cursor := c.forward name.toList.length
    queue := [.scalar name .plain]
    keyAllowed := false
    keys := [keyAt s c] }

/-- The state after the colon behind a name. -/
def afterColon (opened : Bool) (s : Scan) : Scan :=
  { s with
    cursor := s.cursor.step
    queue := openingMarks opened ++ .key :: (s.queue ++ [.value])
    indent := 0
    outer := [-1]
    keyAllowed := false
    keys := [] }

/-- The name is read first, as a scalar that may begin a key. -/
theorem fetch_name {opened : Bool} {name : String} {input : List Char} (hname : IsEntryName name)
    {s : Scan} (hs : s.AtEntry opened (name.toList ++ ':' :: ' ' :: input)) {c : Cursor}
    (hrest : c.rest = name.toList ++ ':' :: ' ' :: input) (hcolumn : c.column = 0)
    (hsettled : Settled s { s with cursor := c, keyAllowed := true }) :
    s.fetch = .ok (afterName s name c) := by
  obtain ⟨ch, word, hword⟩ := List.exists_cons_of_ne_nil hname.ne
  have hch : ch.isLower = true := hname.lower ch (by simp [hword])
  have hplain : s.fetch = Scan.fetchPlain { s with cursor := c, keyAllowed := true } := by
    have hfirst : c.rest = ch :: (word ++ ':' :: ' ' :: input) := by
      rw [hrest, hword]
      rfl
    refine fetch_plain hsettled hfirst (isBlankOrEnd_of_isLower hch) ?_ ?_ ?_
      (by simp [inFlow, hs.level])
    · simp [ne_of_isLower hch]
    · simp [ne_of_isLower hch]
    · simp [ne_of_isLower hch]
  rw [hplain, fetchPlain, noteKey]
  simp [bind, Except.bind, pure, Except.pure, dropKey, pending?, hs.keys, hs.queue, hs.level,
    hcolumn, inFlow, readPlain_name hname.ne hname.lower hrest, push, keyAt, afterName]

/-- The colon shows that the name is a key. -/
theorem fetch_colon {opened : Bool} {input : List Char} {s : Scan} {k : PendingKey}
    (hlevel : s.level = 0) (hkeys : s.keys = [k]) (hk : k.level = 0) (htoken : k.token = s.taken)
    (hcolumn : k.column = 0) (hindent : s.indent = if opened then 0 else -1)
    (houter : s.outer = if opened then [-1] else []) (hrest : s.cursor.rest = ':' :: ' ' :: input)
    (hstale : s.dropStale = .ok s) (hafter : s.indent ≤ s.cursor.column) :
    s.fetch = .ok (afterColon opened s) := by
  have hsettled : Settled s s :=
    ⟨toNextToken_of_token (by simp [BeginsToken, isBreak]) hrest,
      hstale, hafter⟩
  rw [fetch_value hsettled hrest, fetchValue]
  cases opened <;>
    simp_all [pending?, inFlow, deepen, insertAt, push, openingMarks, afterColon,
      pure, Except.pure]

/-- **The name of an entry**: its key is marked as soon as the colon is found. -/
theorem hands_name {opened : Bool} {name : String} {input : List Char} (hname : IsEntryName name)
    {s : Scan} (hs : s.AtEntry opened (name.toList ++ ':' :: ' ' :: input)) :
    ∃ s' : Scan, s'.AtValue input ∧
      Hands 6 s (openingMarks opened ++ [.key, .scalar name .plain, .value]) s' := by
  obtain ⟨c, hrest, hcolumn, hsettled⟩ := hs.settled
  -- the name waits in the queue until the colon tells that it is a key
  have hfirst := hands_fetch hs.queue hs.done (fetch_name hname hs hrest hcolumn hsettled)
  obtain ⟨hline, hindex⟩ := forward_letters hname.lower hrest
  have hafter : (c.forward name.toList.length).rest = ':' :: ' ' :: input := by
    rw [rest_forward, hrest, List.drop_left]
  have hstale : (afterName s name c).dropStale = .ok (afterName s name c) := by
    refine dropStale_of_near (k := keyAt s c) rfl hline.symm ?_
    have := hname.short
    simp only [afterName, keyAt, hindex]
    omega
  have hcolon : (afterName s name c).fetch = .ok (afterColon opened (afterName s name c)) := by
    refine fetch_colon hs.level rfl rfl rfl rfl hs.indent hs.outer hafter hstale ?_
    have := hs.indent
    simp only [afterName]
    split at this <;> omega
  have hsecond := hands_waiting (s := afterName s name c) rfl hs.done hstale
    (by simp [isWaiting, afterName, keyAt]) hcolon
  have hthird := hands_queue (s := afterColon opened (afterName s name c)) rfl rfl hs.done
  obtain ⟨n, hn, hrun⟩ := (hfirst.trans hsecond).trans hthird
  refine ⟨{ afterColon opened (afterName s name c) with queue := [], taken := _ },
    ⟨rfl, hs.level, rfl, hs.done, rfl, rfl, rfl, rest_step_of_cons hafter⟩, n, le_trans hn ?_, hrun⟩
  cases opened <;> simp [openingMarks, afterColon, afterName]

end Scan

/-! ### Texts -/

/-- The form in which a text is read. -/
def readForm (text : String) : ScalarForm :=
  match formOf text with
  | .plain => .plain
  | .single => .singleQuoted
  | .double => .doubleQuoted

/-- A text that does not come back: it stands in single quotes and holds a next-line character. -/
def Lost (text : String) : Prop := formOf text = .single ∧ '\u0085' ∈ text.toList

instance (text : String) : Decidable (Lost text) :=
  inferInstanceAs (Decidable (formOf text = .single ∧ '\u0085' ∈ text.toList))

/-- What is read for the text of an entry: the text itself unless it is lost.  From single quotes
no next-line character is read. -/
structure ValueRead (text value : String) : Prop where
  same : ¬ Lost text → value = text
  lost : formOf text = .single → '\u0085' ∉ value.toList

theorem ValueRead.eq_iff {text value : String} (h : ValueRead text value) :
    value = text ↔ ¬ Lost text := by
  constructor
  · rintro rfl ⟨hform, hmem⟩
    exact h.lost hform hmem
  · exact h.same

/-- The characters of an entry behind the colon and the blank. -/
def valueText (column : Nat) (text : String) : List Char :=
  match formOf text with
  | .plain => folded (fun ch => [ch]) (column + 1) text.toList
  | .single => '\'' :: (folded singleChar (column + 2) text.toList ++ ['\''])
  | .double => '"' :: (doubleQuoted false true (column + 2) text.toList ++ ['"'])

theorem scalarText_eq (column : Nat) (text : String) :
    scalarText column text = ' ' :: valueText column text := by
  rw [scalarText, valueText]
  cases formOf text <;> simp

/-- Where the next entry begins, if there is one. -/
def BeginsEntry (next : List Char) : Prop := ∀ ch ∈ next.head?, ch.isLower = true

theorem BeginsEntry.beginsLine {next : List Char} (h : BeginsEntry next) : BeginsLine next := by
  intro ch hch
  have := h ch hch
  exact ⟨ne_of_isLower this (by decide), ne_of_isLower this (by decide), isBreak_of_isLower this⟩

theorem BeginsEntry.beginsToken {next : List Char} (h : BeginsEntry next) : BeginsToken next := by
  intro ch hch
  have := h ch hch
  exact ⟨ne_of_isLower this (by decide), ne_of_isLower this (by decide), isBreak_of_isLower this,
    ne_of_isLower this (by decide)⟩

/-- A text that stands in single quotes holds nothing that has to be escaped. -/
theorem foldable_of_formOf {text : String} (h : formOf text = .single) : Foldable text.toList := by
  rw [formOf] at h
  split at h
  · exact absurd h (by decide)
  · rename_i hescaped
    simp only [Traits.of, not_or, Bool.not_eq_true, List.any_eq_false] at hescaped
    exact ⟨hescaped.1, hescaped.2⟩

/-- A text in quotes is read up to the end of its line. -/
theorem readQuoted_valueText {text : String} (h : formOf text ≠ .plain) (column : Nat)
    (next : List Char) :
    ∃ (double : Bool) (value : String), ValueRead text value ∧
      (valueText column text).head? = some (closingQuote double) ∧
      ∀ c : Cursor, c.rest = valueText column text ++ '\n' :: next → ∃ after : Cursor,
        readQuoted double c = .ok (.scalar value (readForm text), after) ∧
          after.rest = '\n' :: next := by
  have hrest : ∀ ch ∈ ('\n' :: next).head?, ch ≠ '\'' := by simp
  cases hform : formOf text with
  | plain => exact absurd hform h
  | single =>
      obtain ⟨s', hread, hback⟩ := (foldable_of_formOf hform).comesBack hrest
        (text.toList.length + 1) (by omega) false (column + 2)
      refine ⟨false, String.ofList s', ⟨?_, ?_⟩, by simp [valueText, hform, closingQuote], ?_⟩
      · intro hkept
        rw [hback.same fun hmem => hkept ⟨hform, hmem⟩, String.ofList_toList]
      · intro _
        simpa using hback.lost
      · intro c hc
        simpa [readForm, hform] using hread.readQuoted (c := c)
          (by simpa [valueText, hform, closingQuote, folded] using hc)
  | double =>
      have hread := readsQuoted_doubleQuoted hrest false true (column + 2) text.toList
      refine ⟨true, text, ⟨fun _ => rfl, by simp [hform]⟩,
        by simp [valueText, hform, closingQuote], ?_⟩
      intro c hc
      simpa [readForm, hform] using hread.readQuoted (c := c)
        (by simpa [valueText, hform, closingQuote] using hc)

namespace Scan

theorem AtValue.settled {input : List Char} {s : Scan} (hs : s.AtValue input)
    (hinput : BeginsToken input) : Settled s { s with cursor := s.cursor.step } where
  next := toNextToken_of_blank hinput hs.rest
  stale := dropStale_of_nil hs.keys
  indent := by simp [hs.indent]

/-- **A text in quotes.** -/
theorem hands_quoted {text : String} (h : formOf text ≠ .plain) {column : Nat} {next : List Char}
    (hnext : BeginsEntry next) {s : Scan} (hs : s.AtValue (valueText column text ++ '\n' :: next)) :
    ∃ value, ValueRead text value ∧ ∃ s' : Scan, s'.AtEntry true next ∧
      Hands 2 s [.scalar value (readForm text)] s' := by
  obtain ⟨double, value, hvalue, hhead, hread⟩ := readQuoted_valueText h column next
  obtain ⟨written, hwritten⟩ := List.head?_eq_some_iff.1 hhead
  obtain ⟨after, hok, hafter⟩ := hread s.cursor.step (rest_step_of_cons hs.rest)
  have hsettled := hs.settled (by
    rw [hwritten]
    cases double <;> simp [BeginsToken, closingQuote, isBreak])
  have hfetch : s.fetch = .ok { s with
      cursor := after
      queue := [.scalar value (readForm text)] } := by
    rw [fetch_quoted hsettled (by rw [rest_step_of_cons hs.rest, hwritten]; rfl), fetchKeyLike,
      noteKey]
    simp [hs.keyAllowed, hok, hs.queue, push, bind, Except.bind, pure, Except.pure]
  refine ⟨value, hvalue, _, ?_, (hands_fetch hs.queue hs.done hfetch).trans
    (hands_queue rfl hs.keys hs.done)⟩
  exact ⟨rfl, hs.level, hs.keys, hs.done, hs.indent, hs.outer, after.step,
    rest_step_of_cons hafter, column_step_lineFeed hafter,
    toNextToken_of_lineFeed hnext.beginsToken hs.level hafter⟩

/-- What stands where a text without quotes begins. -/
theorem valueText_plain {text : String} (h : formOf text = .plain) (column : Nat) :
    ∃ (ch : Char) (written : List Char), valueText column text = ch :: written ∧
      isSpecial ch = false ∧ isKeptBreak ch = false ∧ ch ≠ ' ' ∧
      ch ∉ "#,[]\x7b\x7d&*!|>'\"%@\x60".toList ∧
      (ch = '?' ∨ ch = ':' ∨ ch = '-' →
        ∃ d ∈ written.head?, isBlankOrEnd d = false) := by
  obtain ⟨hplain, hne, hstart, hhead, -⟩ := formOf_eq_plain h
  obtain ⟨ch, rest, htext⟩ := List.exists_cons_of_ne_nil hne
  obtain ⟨hblank, -⟩ := hhead ch (by simp [htext])
  have hbreak : isKeptBreak ch = false := hplain.unbroken ch (by simp [htext])
  have hwritten : valueText column text =
      ch :: foldedFrom (fun ch => [ch]) (rest.length + 1) true (column + 2) rest := by
    simp only [valueText, h, folded, htext]
    rw [List.length_cons, foldedFrom_char hblank hbreak]
    rfl
  rw [htext, startsWithIndicator] at hstart
  simp only [Bool.or_eq_false_iff, decide_eq_false_iff_not] at hstart
  refine ⟨ch, _, hwritten, hplain.plain ch (by simp [htext]), hbreak, hblank, hstart.1.1.1, ?_⟩
  intro hmark
  have hspace : spaceAhead rest = false := by
    have := hstart.1.1.2
    rcases hmark with rfl | rfl | rfl <;> simpa using this
  cases rest with
  | nil => simp [spaceAhead] at hspace
  | cons d rest =>
      have hd : isBlankOrEnd d = false := hspace
      have hdspecial : isSpecial d = false := hplain.plain d (by simp [htext])
      rw [isBlankOrEnd_of_not_isSpecial hdspecial, Bool.or_eq_false_iff] at hd
      obtain ⟨written, heq⟩ := exists_foldedFrom_eq (by simpa using hd.1) hd.2
        (Nat.succ_pos (d :: rest).length) true (column + 2) rest
      exact ⟨d, by rw [heq]; rfl, hspace⟩

/-- **A text without quotes.** -/
theorem hands_plain {text : String} (h : formOf text = .plain) {column : Nat} {next : List Char}
    (hnext : BeginsEntry next) {s : Scan} (hs : s.AtValue (valueText column text ++ '\n' :: next)) :
    ∃ s' : Scan, s'.AtEntry true next ∧ Hands 2 s [.scalar text .plain] s' := by
  obtain ⟨ch, written, hwritten, hspecial, hbreak, hblank, hindicator, hmark⟩ :=
    valueText_plain h column
  have hrest : s.cursor.step.rest = ch :: (written ++ '\n' :: next) := by
    rw [rest_step_of_cons hs.rest, hwritten]
    rfl
  have hblankOrEnd : isBlankOrEnd ch = false := by
    rw [isBlankOrEnd_of_not_isSpecial hspecial, hbreak, decide_eq_false hblank]
    rfl
  have hbegins : BeginsToken (valueText column text ++ '\n' :: next) := by
    rw [hwritten]
    intro d hd
    obtain rfl : ch = d := by simpa using hd
    refine ⟨hblank, ?_, ?_, (ne_of_not_isSpecial hspecial).2.2.2⟩
    · rintro rfl
      exact hindicator (by decide)
    · simp only [isBlankOrEnd, isSpaceOrEnd, isBreakOrEnd, Bool.or_eq_false_iff] at hblankOrEnd
      exact hblankOrEnd.2.2.2
  have hfolded : s.cursor.step.rest =
      folded (fun ch => [ch]) (column + 1) text.toList ++ '\n' :: next := by
    rw [rest_step_of_cons hs.rest, valueText, h]
  obtain ⟨after, hread, hafter, hcolumn⟩ := readPlain_folded h hnext.beginsLine hfolded
  have hfetch : s.fetch = .ok { s with
      cursor := after
      queue := [.scalar text .plain]
      keyAllowed := true } := by
    rw [fetch_plain (hs.settled hbegins) hrest hblankOrEnd hindicator ?_ ?_
      (by simp [inFlow, hs.level]), fetchPlain, noteKey]
    · simp [hs.keyAllowed, hs.level, hs.indent, hs.queue, inFlow, hread, push, bind, Except.bind,
        pure, Except.pure]
    · intro h
      obtain ⟨d, hd, hdblank⟩ := hmark h
      obtain ⟨more, rfl⟩ := List.head?_eq_some_iff.1 hd
      simpa [peekAt, hrest] using hdblank
    · intro _
      show s.cursor.step.column ≠ 0
      have := column_step_pos hs.rest (by decide) (by decide)
      omega
  refine ⟨_, ?_, (hands_fetch hs.queue hs.done hfetch).trans (hands_queue rfl hs.keys hs.done)⟩
  exact ⟨rfl, hs.level, hs.keys, hs.done, hs.indent, hs.outer, after, hafter, hcolumn,
    toNextToken_of_token hnext.beginsToken hafter⟩

/-- **The text of an entry.** -/
theorem hands_value {text : String} {column : Nat} {next : List Char} (hnext : BeginsEntry next)
    {s : Scan} (hs : s.AtValue (valueText column text ++ '\n' :: next)) :
    ∃ value, ValueRead text value ∧ ∃ s' : Scan, s'.AtEntry true next ∧
      Hands 2 s [.scalar value (readForm text)] s' := by
  by_cases h : formOf text = .plain
  · obtain ⟨s', hs', hhands⟩ := hands_plain h hnext hs
    exact ⟨text, ⟨fun _ => rfl, by simp [h]⟩, s', hs', by simpa [readForm, h] using hhands⟩
  · exact hands_quoted h hnext hs

end Scan

/-! ### Documents -/

/-- An entry that was written, and what is read for its text. -/
structure ReadEntry where
  name : String
  text : String
  value : String
  isName : IsEntryName name
  read : ValueRead text value

namespace ReadEntry

/-- The entry as it was written. -/
def written (e : ReadEntry) : String × String := (e.name, e.text)

/-- The tokens of an entry. -/
def tokens (e : ReadEntry) : List Token :=
  [.key, .scalar e.name .plain, .value, .scalar e.value (readForm e.text)]

end ReadEntry

theorem entryText_append (name text : String) (next : List Char) :
    entryText (name, text) ++ next =
      name.toList ++ ':' :: ' ' :: (valueText (name.toList.length + 1) text ++ '\n' :: next) := by
  simp [entryText, scalarText_eq]

theorem beginsEntry_entries {entries : List (String × String)}
    (hentries : ∀ entry ∈ entries, IsEntryName entry.1) :
    BeginsEntry (entries.flatMap entryText) := by
  cases entries with
  | nil => simp [BeginsEntry]
  | cons entry entries =>
      obtain ⟨name, text⟩ := entry
      have hname : IsEntryName name := hentries (name, text) (by simp)
      obtain ⟨ch, word, hword⟩ := List.exists_cons_of_ne_nil hname.ne
      rw [List.flatMap_cons, entryText_append, hword]
      intro d hd
      obtain rfl : ch = d := by simpa using hd
      exact hname.lower ch (by simp [hword])

namespace Scan

/-- **One entry.** -/
theorem hands_entry {opened : Bool} {name text : String} (hname : IsEntryName name)
    {next : List Char} (hnext : BeginsEntry next) {s : Scan}
    (hs : s.AtEntry opened (entryText (name, text) ++ next)) :
    ∃ e : ReadEntry, e.written = (name, text) ∧ ∃ s' : Scan, s'.AtEntry true next ∧
      Hands 8 s (openingMarks opened ++ e.tokens) s' := by
  rw [entryText_append] at hs
  obtain ⟨s₁, hs₁, hfirst⟩ := hands_name hname hs
  obtain ⟨value, hvalue, s₂, hs₂, hsecond⟩ := hands_value hnext hs₁
  refine ⟨⟨name, text, value, hname, hvalue⟩, rfl, s₂, hs₂, ?_⟩
  simpa [ReadEntry.tokens] using hfirst.trans hsecond

/-- **The entries of a document**, once the mapping has begun. -/
theorem hands_entries {entries : List (String × String)}
    (hentries : ∀ entry ∈ entries, IsEntryName entry.1) {s : Scan}
    (hs : s.AtEntry true (entries.flatMap entryText)) :
    ∃ es : List ReadEntry, es.map ReadEntry.written = entries ∧ ∃ s' : Scan, s'.AtEntry true [] ∧
      Hands (8 * entries.length) s (es.flatMap ReadEntry.tokens) s' := by
  induction entries generalizing s with
  | nil => exact ⟨[], rfl, s, hs, 0, by omega, fun _ _ => rfl⟩
  | cons entry entries ih =>
      obtain ⟨name, text⟩ := entry
      have hrest : ∀ entry ∈ entries, IsEntryName entry.1 :=
        fun entry h => hentries entry (List.mem_cons_of_mem _ h)
      obtain ⟨e, he, s₁, hs₁, hfirst⟩ := hands_entry (hentries (name, text) (by simp))
        (beginsEntry_entries hrest) hs
      obtain ⟨es, hes, s₂, hs₂, hmore⟩ := ih hrest hs₁
      refine ⟨e :: es, by rw [List.map_cons, he, hes], s₂, hs₂, ?_⟩
      have hhands := hfirst.trans hmore
      rw [List.length_cons, Nat.mul_add, Nat.add_comm]
      simpa [openingMarks] using hhands

/-- Behind the last entry the mapping ends. -/
theorem run_end {s : Scan} (hs : s.AtEntry true []) (fuel : Nat) (taken : List Token) :
    run fetch (fuel + 2) s taken = ⟨taken.reverse ++ [.blockEnd, .streamEnd], .malformed .grammar⟩ := by
  obtain ⟨c, hrest, hcolumn, hsettled⟩ := hs.settled
  have hfetch : s.fetch = .ok { s with
      cursor := c
      queue := [.blockEnd, .streamEnd]
      indent := -1
      outer := []
      keyAllowed := false
      done := true } := by
    rw [fetch_end hsettled hrest, fetchEnd]
    simp [unwind, inFlow, hs.level, hs.outer, hs.indent, leave, dropKey, pending?, hs.keys,
      hs.queue, push, bind, Except.bind, pure, Except.pure]
  rw [run_succ, hs.done, hs.queue, hfetch]
  simp [run_succ]

end Scan

theorem length_le_entries (entries : List (String × String)) :
    entries.length ≤ (entries.flatMap entryText).length := by
  induction entries with
  | nil => simp
  | cons entry entries ih =>
      have : 0 < (entryText entry).length := by
        simp only [entryText, List.length_append, List.length_cons]
        omega
      rw [List.flatMap_cons, List.length_append, List.length_cons]
      omega

/-- The tokens of a whole document. -/
def documentTokens (es : List ReadEntry) : Feed Token :=
  ⟨[.streamStart, .blockMappingStart] ++ es.flatMap ReadEntry.tokens ++ [.blockEnd, .streamEnd],
    .malformed .grammar⟩

/-- **The tokens of a written document.** -/
theorem tokens_write {entries : List (String × String)} (hne : entries ≠ [])
    (hentries : ∀ entry ∈ entries, IsEntryName entry.1) :
    ∃ es : List ReadEntry, es.map ReadEntry.written = entries ∧
      tokens (write entries).toList = documentTokens es := by
  obtain ⟨⟨name, text⟩, more, rfl⟩ := List.exists_cons_of_ne_nil hne
  have hmore : ∀ entry ∈ more, IsEntryName entry.1 :=
    fun entry h => hentries entry (List.mem_cons_of_mem _ h)
  obtain ⟨chars, hchars⟩ : ∃ chars, chars = ((name, text) :: more).flatMap entryText := ⟨_, rfl⟩
  have hbegins : BeginsToken chars := hchars ▸ (beginsEntry_entries hentries).beginsToken
  have hstart := Scan.hands_queue (s := .start chars) rfl rfl rfl
  have hat : Scan.AtEntry false (entryText (name, text) ++ more.flatMap entryText)
      { Scan.start chars with queue := [], taken := (Scan.start chars).taken + 1 } :=
    ⟨rfl, rfl, rfl, rfl, rfl, rfl, .start chars, hchars, rfl,
      Scan.toNextToken_of_token hbegins rfl⟩
  obtain ⟨e, he, s₁, hs₁, hfirst⟩ := Scan.hands_entry (hentries (name, text) (by simp))
    (beginsEntry_entries hmore) hat
  obtain ⟨es, hes, s₂, hs₂, hrest⟩ := Scan.hands_entries hmore hs₁
  refine ⟨e :: es, by rw [List.map_cons, he, hes], ?_⟩
  obtain ⟨k, hk, hrun⟩ := (hstart.trans hfirst).trans hrest
  -- every entry takes eight steps at most, and is written with one character at least
  have hlength := length_le_entries ((name, text) :: more)
  rw [← hchars, List.length_cons] at hlength
  rw [write, String.toList_ofList, ← hchars, tokens]
  simp only [Scan.start, List.length_singleton] at hk
  obtain ⟨fuel, hfuel⟩ : ∃ fuel, 8 * chars.length + 32 = fuel + 2 + k :=
    ⟨8 * chars.length + 30 - k, by omega⟩
  rw [hfuel, hrun, Scan.run_end hs₂]
  simp [documentTokens, Scan.start, Scan.openingMarks]

end EntryTemplates.Document
