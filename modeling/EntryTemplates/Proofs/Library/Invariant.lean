/-
**What holds of every library, whatever its directory contains.**

A library is opened, and from then on it changes only when a template is created.  Both take a
template over only after it was checked, and both note its key as that of a custom template, so the
keys and their order, the check of all templates and the notes stay right.

Main definitions:

* `EntryTemplates.Library.Call` — a call that asks for a new template;
* `EntryTemplates.Library.Run` — the libraries of a run: one that was opened, and what calls made of
  it;
* `EntryTemplates.Library.Sound` — the invariant.

Main results:

* `EntryTemplates.Library.Sound.adopt` — taking a template over preserves the invariant;
* `EntryTemplates.Library.Run.sound` — **the invariant holds along every run**;
* `EntryTemplates.Library.run_serves` — **what every library of a run answers**.
-/

import Mathlib.Data.List.Nodup
import EntryTemplates.Proofs.Builtin
import EntryTemplates.Proofs.Files.Names
import EntryTemplates.Proofs.Library.Opening

set_option relaxedAutoImplicit false
set_option autoImplicit false

namespace EntryTemplates.Library

/-! ### Templates that are taken over -/

/-- A custom template: it is right, and its source is no built-in one. -/
structure IsCustom (t : Template) : Prop where
  right : t.problems = []
  source : t.source ≠ "builtin"

/-- What is found in a file is right, and names the file as its source. -/
theorem templateOfDescription_ok {d : Description} {source : String} {t : Template}
    (h : templateOfDescription d source = .ok t) : t.problems = [] ∧ t.source = source := by
  obtain ⟨v, -, h⟩ := Except.bind_eq_ok.1 h
  obtain ⟨content, -, h⟩ := Except.bind_eq_ok.1 h
  obtain ⟨framework, -, h⟩ := Except.bind_eq_ok.1 h
  obtain ⟨style, -, h⟩ := Except.bind_eq_ok.1 h
  obtain ⟨description, -, h⟩ := Except.bind_eq_ok.1 h
  obtain ⟨author, -, h⟩ := Except.bind_eq_ok.1 h
  obtain ⟨version, -, h⟩ := Except.bind_eq_ok.1 h
  dsimp only at h
  split at h
  · rename_i hright
    obtain rfl := Except.ok.inj h
    exact ⟨hright, rfl⟩
  · exact absurd h (by simp)

theorem templateOfFile_ok {files : Files.Tree} {p : Files.Path} {t : Template}
    (h : templateOfFile files p = .ok t) : t.problems = [] ∧ t.source = p.text := by
  rw [templateOfFile] at h
  split at h
  · exact absurd h (by simp)
  · split at h
    · exact absurd h (by simp)
    · rw [templateOf] at h
      split at h
      · exact absurd h (by simp)
      · split at h
        · exact absurd h (by simp)
        · exact templateOfDescription_ok h

/-- The path of a template file is not what built-in templates name as their source. -/
theorem text_ne_builtin {p : Files.Path} (h : p.suffix ∈ fileEndings) : p.text ≠ "builtin" := by
  have hne : p.suffix ≠ "" := by
    intro hempty
    rw [hempty] at h
    exact absurd h (by decide)
  obtain ⟨before, htext⟩ := Files.Path.exists_text_eq hne
  have hends : ∀ ending ∈ fileEndings, ending.toList.getLast? = some 'l' := by decide
  intro hbuiltin
  have hlast := congrArg (fun s : String => s.toList.getLast?) (htext.symm.trans hbuiltin)
  simp only [String.toList_append, List.getLast?_append, hends _ h, Option.some_or] at hlast
  exact absurd hlast (by decide)

/-- **What a template file holds is a custom template.** -/
theorem isCustom_of_file {files : Files.Tree} {p : Files.Path} {t : Template}
    (helig : isEligible files p = true) (h : templateOfFile files p = .ok t) : IsCustom t := by
  obtain ⟨hright, hsource⟩ := templateOfFile_ok h
  exact ⟨hright, hsource ▸ text_ne_builtin (suffix_of_isEligible helig)⟩

/-! ### The file of a new template -/

theorem isName_fileName (k : Key) : Files.IsName k.fileName := by
  obtain ⟨f, s⟩ := k
  cases f <;> cases s <;> decide

theorem suffix_fileName (folder : Files.Path) (k : Key) :
    (folder.child k.fileName).suffix = ".yaml" := by
  have hname : (folder.child k.fileName).name = k.fileName := by
    rw [Files.Path.child_of_isName _ (isName_fileName k), Files.Path.name]
    simp
  rw [Files.Path.suffix, hname]
  obtain ⟨f, s⟩ := k
  cases f <;> cases s <;> decide

/-! ### The invariant -/

/-- What is filed under a key: it is right, it is noted as a custom template if it comes from
elsewhere, and otherwise it is the built-in one. -/
structure Serves (l : Library) (k : Key) (t : Template) : Prop where
  found : l.catalogue.find? k = some t
  right : t.problems = []
  noted : k ∈ l.custom ↔ t.source ≠ "builtin"
  builtin : k ∉ l.custom → t = Library.builtin k

/-- **The invariant**: every key has its template, in the order of the keys. -/
structure Sound (l : Library) : Prop where
  keys : l.catalogue.templates.map Template.key = Key.all
  serves : ∀ k, ∃ t, l.Serves k t

theorem sound_fresh (directory : Option String) (framework : Framework) (style : Style) :
    Sound (fresh directory framework style) where
  keys := map_key_builtin Key.all
  serves k := by
    refine ⟨builtin k, find?_fresh _ _ _ k, Builtin.problems_template _ _, ?_, fun _ => rfl⟩
    simp [fresh, Library.builtin, Builtin.template]

/-- **Taking a custom template over preserves the invariant.** -/
theorem Sound.adopt {l : Library} (h : l.Sound) {t : Template} (ht : IsCustom t) :
    Sound (l.adopt t) where
  keys := by
    have hmem : t.key ∈ l.catalogue.templates.map Template.key := by
      rw [h.keys]
      exact Key.mem_all _
    exact (Catalogue.map_key_put hmem).trans h.keys
  serves k := by
    have hfind := find?_adopt l t k
    -- the new template is served for its key, and every other key keeps its own
    by_cases hk : t.key = k
    · subst hk
      rw [if_pos rfl] at hfind
      refine ⟨t, hfind, ht.right, ?_, ?_⟩
      · simp [mem_custom_adopt, ht.source]
      · simp [mem_custom_adopt]
    · rw [if_neg hk] at hfind
      obtain ⟨u, hu⟩ := h.serves k
      have hcustom : k ∈ (l.adopt t).custom ↔ k ∈ l.custom := by
        rw [mem_custom_adopt]
        exact or_iff_right fun heq => hk heq.symm
      exact ⟨u, hfind.trans hu.found, hu.right, by rw [hcustom]; exact hu.noted,
        by rw [hcustom]; exact hu.builtin⟩

/-! ### Opening preserves it -/

theorem sound_tryFile {l : Library} (h : l.Sound) (p : Files.Path) (w : World) :
    Sound (tryFile p l w).1 := by
  rw [tryFile]
  split
  · rename_i helig
    cases hread : templateOfFile w.files p with
    | error e => exact h
    | ok t =>
        simp only [Outcome.of]
        split
        · exact h
        · exact h.adopt (isCustom_of_file helig hread)
  · exact h

theorem sound_tryNames {l : Library} (h : l.Sound) (folder : Files.Path) (names : List String)
    (w : World) : Sound (tryNames folder names l w).1 := by
  induction names generalizing l w with
  | nil => exact h
  | cons name names ih => exact ih (sound_tryFile h (folder.child name) w) _

theorem sound_openWith {o : Options} {s : Settings} {l : Library} {w w' : World}
    (h : (openWith o s).run.run w = (.ok l, w')) : Sound l := by
  obtain ⟨framework, style, ⟨-, rfl, -⟩ | ⟨folder, -, -, -, rfl, -⟩ |
    ⟨folder, names, -, -, -, htry⟩⟩ := opened_cases h
  · exact sound_fresh o.directory framework style
  · exact sound_fresh o.directory framework style
  · have hsound := sound_tryNames (sound_fresh o.directory framework style) folder names
      (registerAll Key.all w)
    rwa [htry] at hsound

/-! ### Runs -/

/-- A call that asks for a new template. -/
structure Call where
  framework : Argument
  style : Argument
  content : String
  description : String
  author : String

/-- What is done for a call. -/
def Call.act (c : Call) : Act Files.Path :=
  create c.framework c.style c.content c.description c.author

/-- The library after a call, whether it succeeded or not. -/
def call (l : Library) (c : Call) (w : World) : Library := (c.act.run.run ⟨l, w⟩).2.library

/-- The libraries of a run: one that was opened, and what calls made of it.  Each step may find the
files in any state. -/
inductive Run (o : Options) (s : Settings) : Library → Prop where
  | opened {l : Library} {w w' : World} (h : (openWith o s).run.run w = (.ok l, w')) : Run o s l
  | called {l : Library} (h : Run o s l) (c : Call) (w : World) : Run o s (l.call c w)

theorem sound_call {l : Library} (h : l.Sound) (c : Call) (w : World) : Sound (l.call c w) := by
  rw [call]
  rcases hcreate : c.act.run.run ⟨l, w⟩ with ⟨e | p, l', w'⟩
  · rcases create_eq_error hcreate with hscene | ⟨folder, hscene⟩
    all_goals
      rw [hscene]
      exact h
  · obtain ⟨directory, k, t, made, written, -, -, hp, rfl, hright, -, -, rfl, -⟩ :=
      create_eq_ok.1 hcreate
    refine h.adopt ⟨hright, text_ne_builtin ?_⟩
    rw [hp, suffix_fileName]
    decide

/-- **The invariant holds along every run.** -/
theorem Run.sound {o : Options} {s : Settings} {l : Library} (h : Run o s l) : Sound l := by
  induction h with
  | opened h => exact sound_openWith h
  | called _ c w ih => exact sound_call ih c w

/-! ### What is answered -/

theorem nodup_keys : Key.all.Nodup := by decide

theorem Sound.nodup {l : Library} (h : l.Sound) :
    (l.catalogue.templates.map Template.key).Nodup := h.keys ▸ nodup_keys

theorem Sound.validateAll {l : Library} (h : l.Sound) :
    l.validateAll = Key.all.map fun k => (k.name, []) := by
  rw [Library.validateAll, ← h.keys, List.map_map]
  refine List.map_congr_left fun t ht => ?_
  obtain ⟨u, hu⟩ := h.serves t.key
  obtain rfl : t = u := Option.some.inj ((Catalogue.find?_of_mem h.nodup ht).symm.trans hu.found)
  simp [Template.problemTexts, hu.right, Template.name]

theorem Sound.get {l : Library} (h : l.Sound) {framework style : Argument} {k : Key}
    (hframework : framework.parse = .ok k.framework) (hstyle : style.parse = .ok k.style) :
    ∃ t, l.catalogue.get framework style = .ok t ∧ l.Serves k t := by
  obtain ⟨t, ht⟩ := h.serves k
  exact ⟨t, Catalogue.get_eq_ok.2 ⟨k, ⟨hframework, hstyle⟩, ht.found⟩, ht⟩

/-- **What every library of a run answers**, whatever is in its directory and whatever was asked of
it before: it holds one right template for each key, in their order, and knows which of them are
custom ones. -/
theorem run_serves {o : Options} {s : Settings} {l : Library} (h : Run o s l) :
    l.catalogue.list .missing .missing = .ok l.catalogue.templates ∧
    l.catalogue.templates.map Template.key = Key.all ∧
    l.validateAll = (Key.all.map fun k => (k.name, [])) ∧
    (∀ (framework style : Argument) (k : Key), framework.parse = .ok k.framework →
      style.parse = .ok k.style → ∃ t, l.catalogue.get framework style = .ok t ∧ t.key = k ∧
        l.isCustom framework style = .ok (decide (t.source ≠ "builtin")) ∧
        (l.isCustom framework style = .ok false →
          t = Builtin.template k.framework k.style)) ∧
    (∀ framework style : Argument, IsNameOrLeft Framework framework → IsNameOrLeft Style style →
      ∃ t, l.getDefault framework style = .ok t) ∧
    ∀ (framework : Argument) (needsMain : Bool), IsNameOrLeft Framework framework →
      ∃ t, l.select framework needsMain = .ok t := by
  have hsound := h.sound
  refine ⟨?_, hsound.keys, hsound.validateAll, ?_, ?_, ?_⟩
  · simp [Catalogue.list, Catalogue.wantedFramework, Catalogue.wantedStyle, Argument.missing,
      Argument.isNull, Catalogue.suits, bind, Except.bind, pure, Except.pure]
  · intro framework style k hframework hstyle
    obtain ⟨t, hget, ht⟩ := hsound.get hframework hstyle
    have hkey := Catalogue.key_of_find? ht.found
    have hcustom : l.isCustom framework style = .ok (decide (t.source ≠ "builtin")) := by
      rw [isCustom, hget, Except.map, hkey]
      congr 1
      rw [Bool.eq_iff_iff, List.contains_iff_mem, decide_eq_true_eq]
      exact ht.noted
    refine ⟨t, hget, hkey, hcustom, fun hnot => ht.builtin ?_⟩
    rw [hcustom] at hnot
    rw [ht.noted]
    simpa using hnot
  · intro framework style hframework hstyle
    obtain ⟨f, hf⟩ := exists_parse_orMember hframework (Argument.parse_framework l.framework)
    obtain ⟨st, hst⟩ := exists_parse_orMember hstyle (Argument.parse_style l.style)
    obtain ⟨t, hget, -⟩ := hsound.get (k := ⟨f, st⟩) hf hst
    exact ⟨t, hget⟩
  · intro framework needsMain hframework
    obtain ⟨f, hf⟩ := exists_parse_orMember hframework (Argument.parse_framework l.framework)
    obtain ⟨t, hget, -⟩ := hsound.get (k := ⟨f, .ofNeed needsMain⟩) hf (Argument.parse_style _)
    exact ⟨t, hget⟩

/-- A library can be opened before its directory is made. -/
theorem exists_open_start :
    ∃ w', (openWith ⟨some "templates", .missing, .missing⟩ .standard).run.run World.start =
      (.ok (fresh (some "templates") .catch2 .autoMain), w') := by
  refine ⟨(registerAll Key.all World.start).told .warning (missingMessage (.ofString "templates")),
    openWith_eq_ok.2 ⟨.catch2, .autoMain, rfl, rfl, addCustom_eq_ok.2 ?_⟩⟩
  exact ⟨by decide, rfl, rfl⟩

theorem run_serves_start :
    ∃ l : Library, Run ⟨some "templates", .missing, .missing⟩ .standard l ∧
      l.catalogue.templates.map Template.key = Key.all := by
  obtain ⟨w, hopen⟩ := exists_open_start
  have hrun := (Run.opened hopen).called
    ⟨.member (.framework .catch2), .member (.style .autoMain), "", "", ""⟩ w
  exact ⟨_, hrun, (run_serves hrun).2.1⟩

end EntryTemplates.Library
