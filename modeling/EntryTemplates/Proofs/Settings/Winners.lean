/-
**Which values make the settings.**

For each setting the first source that provides a value wins: the values given directly, the
environment, the file of environment variables, and last the default.  The settings are what the
checks make of the winners, and a refused winner is a problem.  Nothing else counts, so a value that
another one shadows may be anything; and since checked values pass their checks unchanged, settings
come back from their own values.

Main definitions:

* `EntryTemplates.Settings.IsLast` — the last value under a name that fits;
* `EntryTemplates.Settings.Sources.Wins` — the value that wins for a setting;
* `EntryTemplates.Settings.Field.check` — what the check of a setting makes of a value.

Main results:

* `EntryTemplates.Settings.Sources.wins_iff` — **exactly one value wins**;
* `EntryTemplates.Settings.Field.check_check` — a checked value passes its check unchanged;
* `EntryTemplates.Settings.build_eq_ok_iff`, `build_eq_error_iff` — what is built of the winners;
* `EntryTemplates.Settings.build_of_winners` — **the winners make the settings**.
-/

import EntryTemplates.Proofs.Vocabulary
import EntryTemplates.Settings

set_option relaxedAutoImplicit false
set_option autoImplicit false

namespace EntryTemplates.Settings

/-! ### The values that win -/

/-- The last value of a list under a name that fits. -/
def IsLast {α : Type} (fits : String → Bool) (l : List (String × α)) (a : α) : Prop :=
  ∃ before name after, l = before ++ (name, a) :: after ∧ fits name = true ∧
    ∀ item ∈ after, fits item.1 = false

section Last

variable {α : Type} {fits : String → Bool} {l : List (String × α)}

theorem lastOf_eq_some_iff {a : α} : lastOf fits l = some a ↔ IsLast fits l a := by
  rw [lastOf, Option.map_eq_some_iff]
  constructor
  · rintro ⟨⟨name, a⟩, hfind, rfl⟩
    obtain ⟨hfits, after, before, hl, hafter⟩ := List.find?_eq_some_iff_append.1 hfind
    refine ⟨before.reverse, name, after.reverse, ?_, hfits, fun item hitem => ?_⟩
    · rw [← List.reverse_reverse l, hl]
      simp
    · simpa using hafter item (by simpa using hitem)
  · rintro ⟨before, name, after, rfl, hfits, hafter⟩
    refine ⟨(name, a), List.find?_eq_some_iff_append.2
      ⟨hfits, after.reverse, before.reverse, by simp, fun item hitem => ?_⟩, rfl⟩
    simpa using hafter item (by simpa using hitem)

theorem lastOf_eq_none_iff : lastOf fits l = none ↔ ∀ item ∈ l, fits item.1 = false := by
  simp [lastOf, List.find?_eq_none]

end Last

/-- **The value that wins for a setting**: that of the first source that provides one.  An empty
text is provided, a name without a value in the file is not. -/
inductive Sources.Wins (s : Sources) (f : Field) : Datum → Prop
  | given {d : Datum} (h : IsLast (· = f.name) s.given d) : s.Wins f d
  | environment {v : String} (hgiven : ∀ item ∈ s.given, item.1 ≠ f.name)
      (h : IsLast f.isVariable s.environment v) : s.Wins f (.text v)
  | file {v : String} (hgiven : ∀ item ∈ s.given, item.1 ≠ f.name)
      (henvironment : ∀ item ∈ s.environment, f.isVariable item.1 = false)
      (h : IsLast f.isVariable s.file (some v)) : s.Wins f (.text v)
  | standard (hgiven : ∀ item ∈ s.given, item.1 ≠ f.name)
      (henvironment : ∀ item ∈ s.environment, f.isVariable item.1 = false)
      (hfile : ∀ v, ¬ IsLast f.isVariable s.file (some v)) : s.Wins f (standard.get f)

/-- The value that wins for a setting, as it is looked up. -/
def Sources.winner (s : Sources) (f : Field) : Datum := (s.value? f).getD (standard.get f)

/-- **Exactly one value wins for each setting.** -/
theorem Sources.wins_iff {s : Sources} {f : Field} {d : Datum} : s.Wins f d ↔ s.winner f = d := by
  constructor
  · intro h
    rw [winner, value?]
    cases h with
    | given h => rw [lastOf_eq_some_iff.2 h]; rfl
    | environment hgiven h =>
        rw [lastOf_eq_none_iff.2 (by simpa using hgiven), lastOf_eq_some_iff.2 h]
        rfl
    | file hgiven henvironment h =>
        rw [lastOf_eq_none_iff.2 (by simpa using hgiven), lastOf_eq_none_iff.2 henvironment,
          lastOf_eq_some_iff.2 h]
        rfl
    | standard hgiven henvironment hfile =>
        rw [lastOf_eq_none_iff.2 (by simpa using hgiven), lastOf_eq_none_iff.2 henvironment]
        rcases hlast : lastOf f.isVariable s.file with - | - | v
        · rfl
        · rfl
        · exact absurd (lastOf_eq_some_iff.1 hlast) (hfile v)
  · rintro rfl
    rw [winner, value?]
    rcases hgiven : lastOf (· = f.name) s.given with - | d
    · have hgiven' : ∀ item ∈ s.given, item.1 ≠ f.name := by
        simpa using lastOf_eq_none_iff.1 hgiven
      rcases henvironment : lastOf f.isVariable s.environment with - | v
      · have henvironment' := lastOf_eq_none_iff.1 henvironment
        rcases hfile : lastOf f.isVariable s.file with - | - | v
        · refine .standard hgiven' henvironment' fun v h => ?_
          rw [lastOf_eq_some_iff.2 h] at hfile
          cases hfile
        · refine .standard hgiven' henvironment' fun v h => ?_
          rw [lastOf_eq_some_iff.2 h] at hfile
          cases hfile
        · exact .file hgiven' henvironment' (lastOf_eq_some_iff.1 hfile)
      · exact .environment hgiven' (lastOf_eq_some_iff.1 henvironment)
    · exact .given (lastOf_eq_some_iff.1 hgiven)

/-! ### Checks -/

/-- What the check of a setting makes of a value. -/
def Field.check : Field → Datum → Except Refusal Datum
  | .framework, d => (checkFramework d).map fun f => .text f.name
  | .style, d => (checkStyle d).map fun s => .text s.name
  | .directory, d => (checkPath d).map optionalText
  | .fileName, d => (checkFileName d).map .text
  | .logLevel, d => (checkLevel d).map fun n => .text n.name
  | .logFile, d => (checkPath d).map optionalText

theorem map_eq_ok_iff {ε α β : Type} {g : α → β} (hg : Function.Injective g) {x : Except ε α}
    {a : α} : x.map g = .ok (g a) ↔ x = .ok a := by
  cases x <;> simp [Except.map, hg.eq_iff]

theorem map_eq_ok {ε α β : Type} {g : α → β} {x : Except ε α} {b : β} (h : x.map g = .ok b) :
    ∃ a, x = .ok a ∧ g a = b := by
  cases x with
  | error e => cases h
  | ok a => exact ⟨a, rfl, Except.ok.inj h⟩

theorem optionalText_injective : Function.Injective optionalText := by
  intro p q h
  cases p <;> cases q <;> simp_all [optionalText]

theorem text_injective : Function.Injective Datum.text := fun _ _ => Datum.text.inj

theorem levelName_injective : Function.Injective LevelName.name := by
  intro n n'
  cases n <;> cases n' <;> decide

theorem checkFramework_name (f : Framework) : checkFramework (.text f.name) = .ok f := by
  cases f <;> decide +kernel

theorem checkStyle_name (s : Style) : checkStyle (.text s.name) = .ok s := by
  cases s <;> decide +kernel

theorem checkLevel_name (n : LevelName) : checkLevel (.text n.name) = .ok n := by
  cases n <;> decide +kernel

/-- A path that is kept holds more than white space. -/
theorem checkPath_optionalText {d : Datum} {p : Option String} (h : checkPath d = .ok p) :
    checkPath (optionalText p) = .ok p := by
  unfold checkPath at h
  split at h
  · obtain rfl := Except.ok.inj h
    rfl
  · cases htext : checkText d with
    | error r =>
        rw [htext] at h
        cases h
    | ok s =>
        rw [htext] at h
        obtain rfl := Except.ok.inj h
        by_cases hblank : Text.isBlankText s.toList = true
        · rw [if_pos hblank]
          rfl
        · rw [if_neg hblank]
          exact congrArg Except.ok (if_neg hblank)

/-- A file name is kept as it was read. -/
theorem checkFileName_text {d : Datum} {name : String} (h : checkFileName d = .ok name) :
    checkFileName (.text name) = .ok name := by
  cases htext : checkText d with
  | error r =>
      rw [checkFileName, htext] at h
      cases h
  | ok s =>
      have hread : checkFileName d = checkFileName (.text s) := by
        rw [checkFileName, checkFileName, htext]
        rfl
      have hname : s = name := by
        rw [hread] at h
        simp only [checkFileName, checkText, Bind.bind, Except.bind] at h
        split at h
        · cases h
        · split at h
          · cases h
          · split at h
            · exact Except.ok.inj h
            · cases h
      rw [← hname, ← hread, h, hname]

/-- **A checked value passes its check unchanged.** -/
theorem Field.check_check {f : Field} {d v : Datum} (h : f.check d = .ok v) :
    f.check v = .ok v := by
  cases f with
  | framework =>
      obtain ⟨x, -, rfl⟩ := map_eq_ok h
      simp only [Field.check, checkFramework_name, Except.map]
  | style =>
      obtain ⟨x, -, rfl⟩ := map_eq_ok h
      simp only [Field.check, checkStyle_name, Except.map]
  | directory =>
      obtain ⟨p, hp, rfl⟩ := map_eq_ok h
      simp only [Field.check, checkPath_optionalText hp, Except.map]
  | fileName =>
      obtain ⟨name, hname, rfl⟩ := map_eq_ok h
      simp only [Field.check, checkFileName_text hname, Except.map]
  | logLevel =>
      obtain ⟨x, -, rfl⟩ := map_eq_ok h
      simp only [Field.check, checkLevel_name, Except.map]
  | logFile =>
      obtain ⟨p, hp, rfl⟩ := map_eq_ok h
      simp only [Field.check, checkPath_optionalText hp, Except.map]

/-! ### What is built -/

section Build

variable {s : Sources} {settings : Settings}

/-- The default passes its own check, so it is a value like any other. -/
theorem Sources.field_eq_check {α : Type} {f : Field} {check : Datum → Except Refusal α}
    {default : α} (hdefault : check (standard.get f) = .ok default) :
    s.field f check default = check (s.winner f) := by
  rw [field, winner]
  cases s.value? f with
  | none => exact hdefault.symm
  | some d => rfl

/-- The problems that the winners make, in the order of the settings. -/
def Sources.problems (s : Sources) : List Problem :=
  Field.all.flatMap fun f => problemOf f (f.check (s.winner f))

theorem problemOf_map {α β : Type} {f : Field} {g : α → β} {x : Except Refusal α} :
    problemOf f (x.map g) = problemOf f x := by
  cases x <;> rfl

theorem mem_problemOf {α : Type} {f : Field} {x : Except Refusal α} {p : Problem} :
    p ∈ problemOf f x ↔ p.field = f ∧ x = .error p.refusal := by
  obtain ⟨f', r⟩ := p
  cases x <;> simp [problemOf, eq_comm]

/-- The settings are built of the checked winners. -/
theorem build_eq (s : Sources) :
    build s =
      match checkFramework (s.winner .framework), checkStyle (s.winner .style),
          checkPath (s.winner .directory), checkFileName (s.winner .fileName),
          checkLevel (s.winner .logLevel), checkPath (s.winner .logFile) with
      | .ok framework, .ok style, .ok directory, .ok fileName, .ok logLevel, .ok logFile =>
          .ok { framework, style, directory, fileName, logLevel, logFile }
      | _, _, _, _, _, _ => .error s.problems := by
  have hproblems : s.problems =
      problemOf .framework (checkFramework (s.winner .framework))
        ++ problemOf .style (checkStyle (s.winner .style))
        ++ problemOf .directory (checkPath (s.winner .directory))
        ++ problemOf .fileName (checkFileName (s.winner .fileName))
        ++ problemOf .logLevel (checkLevel (s.winner .logLevel))
        ++ problemOf .logFile (checkPath (s.winner .logFile)) := by
    simp [Sources.problems, Field.all, Field.check, problemOf_map]
  -- every default passes its own check, so it need not be told from a value that is provided
  have hframework : checkFramework (standard.get .framework) = .ok standard.framework :=
    checkFramework_name _
  have hstyle : checkStyle (standard.get .style) = .ok standard.style := checkStyle_name _
  have hdirectory : checkPath (standard.get .directory) = .ok standard.directory := rfl
  have hfileName : checkFileName (standard.get .fileName) = .ok standard.fileName := rfl
  have hlogLevel : checkLevel (standard.get .logLevel) = .ok standard.logLevel := checkLevel_name _
  have hlogFile : checkPath (standard.get .logFile) = .ok standard.logFile := rfl
  rw [hproblems, ← Sources.field_eq_check hframework, ← Sources.field_eq_check hstyle,
    ← Sources.field_eq_check hdirectory, ← Sources.field_eq_check hfileName,
    ← Sources.field_eq_check hlogLevel, ← Sources.field_eq_check hlogFile]
  rfl

/-- **The settings are built if every winner passes its check**, and hold what the checks make. -/
theorem build_eq_ok_iff :
    build s = .ok settings ↔ ∀ f : Field, f.check (s.winner f) = .ok (settings.get f) := by
  rw [build_eq]
  constructor
  · intro h
    split at h
    · rename_i hframework hstyle hdirectory hfileName hlogLevel hlogFile
      obtain rfl := Except.ok.inj h
      intro f
      cases f with
      | framework => rw [Field.check, hframework]; rfl
      | style => rw [Field.check, hstyle]; rfl
      | directory => rw [Field.check, hdirectory]; rfl
      | fileName => rw [Field.check, hfileName]; rfl
      | logLevel => rw [Field.check, hlogLevel]; rfl
      | logFile => rw [Field.check, hlogFile]; rfl
    · cases h
  · intro h
    -- different settings have different values, so the checks gave these
    have hframework := text_injective.comp Vocabulary.isPlain_framework.name_injective
    have hstyle := text_injective.comp Vocabulary.isPlain_style.name_injective
    have hlogLevel := text_injective.comp levelName_injective
    rw [(map_eq_ok_iff hframework).1 (h .framework), (map_eq_ok_iff hstyle).1 (h .style),
      (map_eq_ok_iff optionalText_injective).1 (h .directory),
      (map_eq_ok_iff text_injective).1 (h .fileName),
      (map_eq_ok_iff hlogLevel).1 (h .logLevel),
      (map_eq_ok_iff optionalText_injective).1 (h .logFile)]

theorem mem_problems_iff {p : Problem} :
    p ∈ s.problems ↔ p.field.check (s.winner p.field) = .error p.refusal := by
  rw [Sources.problems, List.mem_flatMap]
  constructor
  · rintro ⟨f, -, hp⟩
    obtain ⟨rfl, hcheck⟩ := mem_problemOf.1 hp
    exact hcheck
  · intro hcheck
    refine ⟨p.field, ?_, mem_problemOf.2 ⟨rfl, hcheck⟩⟩
    cases p.field <;> decide

/-- No setting has two problems, and they come in the order of the settings. -/
theorem map_field_problems : (s.problems.map Problem.field).Sublist Field.all := by
  unfold Sources.problems
  induction Field.all with
  | nil => exact List.Sublist.refl _
  | cons f rest ih =>
      rw [List.flatMap_cons, List.map_append]
      cases f.check (s.winner f) with
      | ok d => exact ih.cons f
      | error r => exact ih.cons_cons f

theorem eq_problems_of_build_eq_error {problems : List Problem} (h : build s = .error problems) :
    problems = s.problems := by
  rw [build_eq] at h
  split at h
  · cases h
  · exact (Except.error.inj h).symm

/-- Without problems there is something to build. -/
theorem exists_build_of_problems_eq_nil (h : s.problems = []) :
    ∃ settings, build s = .ok settings := by
  have hcheck : ∀ f : Field, ∃ v, f.check (s.winner f) = .ok v := by
    intro f
    cases hf : f.check (s.winner f) with
    | ok v => exact ⟨v, rfl⟩
    | error r =>
        have hmem : (⟨f, r⟩ : Problem) ∈ s.problems := mem_problems_iff.2 hf
        rw [h] at hmem
        cases hmem
  obtain ⟨_, hframework⟩ := hcheck .framework
  obtain ⟨_, hstyle⟩ := hcheck .style
  obtain ⟨_, hdirectory⟩ := hcheck .directory
  obtain ⟨_, hfileName⟩ := hcheck .fileName
  obtain ⟨_, hlogLevel⟩ := hcheck .logLevel
  obtain ⟨_, hlogFile⟩ := hcheck .logFile
  obtain ⟨_, hframework, -⟩ := map_eq_ok hframework
  obtain ⟨_, hstyle, -⟩ := map_eq_ok hstyle
  obtain ⟨_, hdirectory, -⟩ := map_eq_ok hdirectory
  obtain ⟨_, hfileName, -⟩ := map_eq_ok hfileName
  obtain ⟨_, hlogLevel, -⟩ := map_eq_ok hlogLevel
  obtain ⟨_, hlogFile, -⟩ := map_eq_ok hlogFile
  rw [build_eq, hframework, hstyle, hdirectory, hfileName, hlogLevel, hlogFile]
  exact ⟨_, rfl⟩

/-- **Nothing is built if a winner is refused**; the problems are those of the refused winners. -/
theorem build_eq_error_iff {problems : List Problem} :
    build s = .error problems ↔ problems ≠ [] ∧ problems = s.problems := by
  constructor
  · intro h
    have hproblems := eq_problems_of_build_eq_error h
    refine ⟨fun hnil => ?_, hproblems⟩
    obtain ⟨settings, hbuild⟩ := exists_build_of_problems_eq_nil (hproblems.symm.trans hnil)
    rw [hbuild] at h
    cases h
  · rintro ⟨hne, rfl⟩
    cases hbuild : build s with
    | error problems => rw [eq_problems_of_build_eq_error hbuild]
    | ok settings =>
        obtain ⟨p, hp⟩ := List.exists_mem_of_ne_nil _ hne
        have hok := build_eq_ok_iff.1 hbuild p.field
        rw [mem_problems_iff.1 hp] at hok
        cases hok

/-- What is built depends on the winners only. -/
theorem build_congr {s' : Sources} (h : ∀ f, s'.winner f = s.winner f) : build s' = build s := by
  have hproblems : s'.problems = s.problems := by
    simp only [Sources.problems, h]
  rw [build_eq, build_eq]
  simp only [h, hproblems]

/-! ### Settings from their own values -/

/-- Each setting is found under its name. -/
theorem isLast_entries (settings : Settings) (f : Field) :
    IsLast (· = f.name) settings.entries (settings.get f) := by
  obtain ⟨before, after, hall, hafter⟩ : ∃ before after, Field.all = before ++ f :: after ∧
      ∀ f' ∈ after, f'.name ≠ f.name := by
    cases f with
    | framework => exact ⟨[], _, rfl, by decide⟩
    | style => exact ⟨[.framework], _, rfl, by decide⟩
    | directory => exact ⟨[.framework, .style], _, rfl, by decide⟩
    | fileName => exact ⟨[.framework, .style, .directory], _, rfl, by decide⟩
    | logLevel => exact ⟨[.framework, .style, .directory, .fileName], _, rfl, by decide⟩
    | logFile => exact ⟨[.framework, .style, .directory, .fileName, .logLevel], _, rfl, by decide⟩
  refine ⟨before.map fun f => (f.name, settings.get f), f.name,
    after.map fun f => (f.name, settings.get f), ?_, by simp, ?_⟩
  · rw [entries, hall, List.map_append, List.map_cons]
  · intro item hitem
    obtain ⟨f', hf', rfl⟩ := List.mem_map.1 hitem
    simpa using hafter f' hf'

/-- **Settings come back from their own values**, whatever else there is. -/
theorem build_entries (h : build s = .ok settings) (environment : List (String × String))
    (file : List Binding) : build ⟨settings.entries, environment, file⟩ = .ok settings := by
  rw [build_eq_ok_iff]
  intro f
  have hwins : (⟨settings.entries, environment, file⟩ : Sources).Wins f (settings.get f) :=
    .given (isLast_entries settings f)
  rw [Sources.wins_iff.1 hwins]
  exact Field.check_check (build_eq_ok_iff.1 h f)

end Build

/-- **The winners make the settings.**  Exactly one value wins for each setting.  The settings are
built if every winner passes its check, and hold what the checks make of them; otherwise there is
one problem for each winner that is refused, in the order of the settings.  Values that do not win
make no difference, and settings come back from their own values. -/
theorem build_of_winners (s : Sources) :
    (∀ f, ∃! d, s.Wins f d) ∧
    (∀ settings, build s = .ok settings ↔
      ∀ f d, s.Wins f d → f.check d = .ok (settings.get f)) ∧
    ((∃ problems, build s = .error problems) ↔ ∃ f d r, s.Wins f d ∧ f.check d = .error r) ∧
    (∀ problems, build s = .error problems →
      (∀ f r, ⟨f, r⟩ ∈ problems ↔ ∃ d, s.Wins f d ∧ f.check d = .error r) ∧
      (problems.map Problem.field).Sublist Field.all) ∧
    (∀ s' : Sources, (∀ f d, s'.Wins f d ↔ s.Wins f d) → build s' = build s) ∧
    (∀ settings, build s = .ok settings →
      ∀ environment file, build ⟨settings.entries, environment, file⟩ = .ok settings) := by
  simp only [Sources.wins_iff]
  refine ⟨fun f => ⟨_, rfl, fun d h => h.symm⟩, fun settings => ?_, ?_, fun problems h => ?_,
    fun s' h => ?_, fun settings => build_entries⟩
  · rw [build_eq_ok_iff]
    exact ⟨fun h f d hd => hd ▸ h f, fun h f => h f _ rfl⟩
  · constructor
    · rintro ⟨problems, h⟩
      obtain ⟨hne, rfl⟩ := build_eq_error_iff.1 h
      obtain ⟨p, hp⟩ := List.exists_mem_of_ne_nil _ hne
      exact ⟨p.field, _, p.refusal, rfl, mem_problems_iff.1 hp⟩
    · rintro ⟨f, d, r, rfl, hcheck⟩
      have hmem : (⟨f, r⟩ : Problem) ∈ s.problems := mem_problems_iff.2 hcheck
      exact ⟨s.problems, build_eq_error_iff.2 ⟨List.ne_nil_of_mem hmem, rfl⟩⟩
  · obtain ⟨-, rfl⟩ := build_eq_error_iff.1 h
    refine ⟨fun f r => ?_, map_field_problems⟩
    rw [mem_problems_iff]
    exact ⟨fun hcheck => ⟨_, rfl, hcheck⟩, by rintro ⟨d, rfl, hcheck⟩; exact hcheck⟩
  · exact build_congr fun f => (h f _).2 rfl

/-- An empty text wins over the file and is no directory; the level that is shadowed is none. -/
example :
    build ⟨[("log_level", .text " debug\n")],
        [("cpp_test_mains_log_level", "loud"), ("CPP_TEST_MAINS_CUSTOM_TEMPLATES_DIR", "")],
        [("CPP_TEST_MAINS_CUSTOM_TEMPLATES_DIR", some "templates")]⟩ =
      .ok { standard with logLevel := .debug } := by
  decide +kernel

end EntryTemplates.Settings
