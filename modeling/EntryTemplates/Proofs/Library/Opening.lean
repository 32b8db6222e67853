/-
**Opening a library, step by step.**

The built-in templates are registered first, one for each key.  Then the names in the directory are
tried in their order.

Main definitions:

* `EntryTemplates.Library.fresh` — a library with the built-in templates;
* `EntryTemplates.Library.tryNames` — the library and the world after some names were tried;
* `EntryTemplates.Library.AllAddable` — names that do not stop the opening, each in its turn;
* `EntryTemplates.Library.Apart` — a directory whose template files are no log files.

Main results:

* `EntryTemplates.Library.openWith_eq_ok` — **what it takes to open a library, and what is opened**;
* `EntryTemplates.Library.opened_cases` — **what an opened library was made of**;
* `EntryTemplates.Library.exists_opened` — **which directories let a library be opened**;
* `EntryTemplates.Library.noted_run_openWith` — what an opening changes that may fail.
-/

import EntryTemplates.Proofs.Catalogue
import EntryTemplates.Proofs.Files.Directories
import EntryTemplates.Proofs.Library.Operations

set_option relaxedAutoImplicit false
set_option autoImplicit false

namespace EntryTemplates.Library

open Files.Tree

/-! ### The built-in templates -/

/-- The built-in template of a key. -/
def builtin (k : Key) : Template := Builtin.template k.framework k.style

theorem key_builtin (k : Key) : (builtin k).key = k := rfl

/-- The world after built-in templates were registered. -/
def registerAll (ks : List Key) (w : World) : World :=
  ks.foldl (fun w k => w.registered (builtin k)) w

theorem noted_registerAll (ks : List Key) (w : World) : w.Noted (registerAll ks w) := by
  induction ks generalizing w with
  | nil => exact .refl w
  | cons k ks ih => exact (World.noted_registered w (builtin k)).trans (ih _)

theorem map_key_builtin (ks : List Key) : (ks.map builtin).map Template.key = ks := by
  simp [Function.comp_def, key_builtin]

theorem foldlM_register {before ks : List Key} (h : (before ++ ks).Nodup) (w : World) :
    (ks.foldlM (fun c k => register c (Builtin.template k.framework k.style) false)
        (⟨before.map builtin⟩ : Catalogue)).run.run w =
      (.ok ⟨(before ++ ks).map builtin⟩, registerAll ks w) := by
  -- the templates of `before` are registered, those of `ks` are not
  induction ks generalizing before w with
  | nil =>
      rw [List.append_nil]
      rfl
  | cons k ks ih =>
      have hnew : k ∉ before := by
        rw [List.nodup_append] at h
        exact fun hmem => h.2.2 k hmem k (by simp) rfl
      have hfind : Catalogue.find? ⟨before.map builtin⟩ k = none := by
        rw [Catalogue.find?_eq_none_iff, map_key_builtin]
        exact hnew
      have hput : Catalogue.put (builtin k) (before.map builtin) = (before ++ [k]).map builtin := by
        rw [Catalogue.put_of_not_mem (by rw [map_key_builtin]; exact hnew), List.map_append]
        rfl
      have hregister : (register ⟨before.map builtin⟩ (builtin k) false).run.run w =
          (.ok ⟨(before ++ [k]).map builtin⟩, w.registered (builtin k)) := by
        rw [run_register, key_builtin, hfind, if_neg (by simp), hput]
      have hmore := @ih (before ++ [k]) (by simpa using h) (w.registered (builtin k))
      rw [List.foldlM_cons, Work.run_bind, ← builtin, hregister]
      simpa [registerAll] using hmore

/-- **The catalogue with the built-in templates.** -/
theorem run_builtins (w : World) :
    builtins.run.run w = (.ok ⟨Key.all.map builtin⟩, registerAll Key.all w) :=
  @foldlM_register [] Key.all (by decide) w

/-- A library with the built-in templates. -/
def fresh (directory : Option String) (framework : Framework) (style : Style) : Library :=
  ⟨⟨Key.all.map builtin⟩, directory, framework, style, []⟩

theorem find?_fresh (directory : Option String) (framework : Framework) (style : Style) (k : Key) :
    (fresh directory framework style).catalogue.find? k = some (builtin k) := by
  obtain ⟨f, s⟩ := k
  cases f <;> cases s <;> rfl

/-! ### The directory -/

/-- The library and the world after some names of a directory were tried. -/
def tryNames (folder : Files.Path) : List String → Library → World → Library × World
  | [], l, w => (l, w)
  | name :: names, l, w =>
      let (l', w') := tryFile (folder.child name) l w
      tryNames folder names l' w'

/-- No file stops the opening of the library when its turn comes. -/
def AllAddable (folder : Files.Path) : List String → Library → World → Prop
  | [], _, _ => True
  | name :: names, l, w =>
      Addable w.files (folder.child name) ∧
        AllAddable folder names (tryFile (folder.child name) l w).1
          (tryFile (folder.child name) l w).2

theorem foldlM_addFile_eq_ok {folder : Files.Path} {names : List String} {l l' : Library}
    {w w' : World} :
    (names.foldlM (fun (l : Library) name => l.addFile (folder.child name)) l).run.run w =
        (.ok l', w') ↔
      AllAddable folder names l w ∧ tryNames folder names l w = (l', w') := by
  induction names generalizing l w with
  | nil =>
      rw [List.foldlM_nil, Work.run_pure, Work.ok_eq_ok]
      simp [AllAddable, tryNames]
  | cons name names ih =>
      rw [List.foldlM_cons, Work.bind_eq_ok]
      constructor
      · rintro ⟨l₁, w₁, hfirst, hrest⟩
        obtain ⟨haddable, htry⟩ := addFile_eq_ok.1 hfirst
        obtain ⟨hall, hmore⟩ := ih.1 hrest
        refine ⟨⟨haddable, ?_⟩, ?_⟩
        · rw [htry]
          exact hall
        · rw [tryNames, htry]
          exact hmore
      · rintro ⟨⟨haddable, hall⟩, hmore⟩
        exact ⟨_, _, addFile_eq_ok.2 ⟨haddable, rfl⟩, ih.2 ⟨hall, hmore⟩⟩

theorem noted_tryNames (folder : Files.Path) (names : List String) (l : Library) (w : World) :
    w.Noted (tryNames folder names l w).2 := by
  induction names generalizing l w with
  | nil => exact .refl w
  | cons name names ih => exact (noted_tryFile _ l w).trans (ih _ _)

/-- The names in the directory that a path leads to, if it leads to one and they may be read, in
their order. -/
def namesAt (t : Files.Tree) (p : Files.Path) : Option (List String) :=
  match t.locate p with
  | .ok (.taken location .directory) =>
      if t.Denies .read location then none else some (Files.Tree.sortNames (t.namesIn location))
  | _ => none

theorem namesAt_eq_some {t : Files.Tree} {p : Files.Path} {names : List String} :
    namesAt t p = some names ↔
      ∃ location, t.Listable p location ∧ names = sortNames (t.namesIn location) := by
  rw [namesAt]
  constructor
  · intro h
    split at h
    · rename_i location hlocate
      split at h
      · cases h
      · rename_i hallowed
        exact ⟨location, ⟨hlocate, hallowed⟩, (Option.some.inj h).symm⟩
    · cases h
  · rintro ⟨location, ⟨hisAt, hallowed⟩, rfl⟩
    rw [IsAt] at hisAt
    rw [hisAt]
    exact if_neg hallowed

theorem list_of_listable {t : Files.Tree} {p : Files.Path} {location : Files.Location}
    (h : t.Listable p location) : t.list p = .ok (sortNames (t.namesIn location)) := by
  obtain ⟨hisAt, hallowed⟩ := h
  rw [IsAt] at hisAt
  rw [list, hisAt]
  exact if_neg hallowed

theorem list_of_denied {t : Files.Tree} {p : Files.Path} {location : Files.Location}
    (h : t.IsAt p location) (hdenied : t.Denies .read location) :
    t.list p = .error (.system .denied p.text) := by
  rw [IsAt] at h
  rw [list, h]
  exact if_pos hdenied

/-- Where no names can be read, there is no directory, or they must not be read. -/
theorem list_of_namesAt_eq_none {t : Files.Tree} {p : Files.Path} (h : namesAt t p = none)
    (hdirectory : t.isDirectory p = .ok true) : t.list p = .error (.system .denied p.text) := by
  obtain ⟨location, hisAt⟩ := isAt_of_isDirectory hdirectory
  refine list_of_denied hisAt (not_not.1 fun hallowed => ?_)
  exact absurd (h.symm.trans (namesAt_eq_some.2 ⟨location, ⟨hisAt, hallowed⟩, rfl⟩)) (by simp)

/-- The directory for custom templates, if there is one. -/
def folder? (directory : Option String) : Option Files.Path :=
  match directory with
  | none => none
  | some "" => none
  | some directory => some (.ofString directory)

/-- The entry about a directory that is missing. -/
def missingMessage (p : Files.Path) : String :=
  "Custom templates directory does not exist: " ++ p.text

theorem addCustom_of_none {l : Library} (h : folder? l.directory = none) :
    l.addCustom = pure l := by
  rw [addCustom]
  cases hdirectory : l.directory with
  | none => rfl
  | some directory =>
      by_cases hempty : directory = ""
      · subst hempty
        rfl
      · simp [hdirectory, folder?] at h

theorem addCustom_of_some {l : Library} {folder : Files.Path}
    (h : folder? l.directory = some folder) :
    l.addCustom = (do
      if ← Work.files fun t => t.isDirectory folder then
        let names ← Work.files fun t => t.list folder
        names.foldlM (fun l name => l.addFile (folder.child name)) l
      else
        log .warning (missingMessage folder)
        return l) := by
  rw [addCustom]
  cases hdirectory : l.directory with
  | none => simp [hdirectory, folder?] at h
  | some directory =>
      by_cases hempty : directory = ""
      · simp [hdirectory, hempty, folder?] at h
      · obtain rfl : Files.Path.ofString directory = folder := by
          simpa [hdirectory, folder?, hempty] using h
        split <;> simp_all
        rfl

/-- The names in the directory are tried one after the other. -/
theorem run_addCustom_of_names {l : Library} {folder : Files.Path}
    (hfolder : folder? l.directory = some folder) {w : World} {names : List String}
    (hnames : namesAt w.files folder = some names) :
    l.addCustom.run.run w =
      (names.foldlM (fun (l : Library) name => l.addFile (folder.child name)) l).run.run w := by
  obtain ⟨location, hlistable, rfl⟩ := namesAt_eq_some.1 hnames
  rw [addCustom_of_some hfolder, Work.run_bind, Work.run_files,
    isDirectory_of_isAt hlistable.isAt]
  simp only [Except.mapError, if_true]
  rw [Work.run_bind, Work.run_files, list_of_listable hlistable]
  rfl

/-- **The names in the directory are tried**; without one nothing happens. -/
theorem addCustom_eq_ok {l l' : Library} {w w' : World} :
    l.addCustom.run.run w = (.ok l', w') ↔
      match folder? l.directory with
      | none => l = l' ∧ w = w'
      | some folder =>
          match namesAt w.files folder with
          | some names => AllAddable folder names l w ∧ tryNames folder names l w = (l', w')
          | none => w.files.isDirectory folder = .ok false ∧ l = l' ∧
              w.told .warning (missingMessage folder) = w' := by
  cases hfolder : folder? l.directory with
  | none => rw [addCustom_of_none hfolder, Work.run_pure, Work.ok_eq_ok]
  | some folder =>
      cases hnames : namesAt w.files folder with
      | some names =>
          rw [run_addCustom_of_names hfolder hnames]
          simp only [hnames]
          exact foldlM_addFile_eq_ok
      | none =>
          rw [addCustom_of_some hfolder, Work.run_bind, Work.run_files]
          cases hmissing : w.files.isDirectory folder with
          | error e =>
              refine iff_of_false Work.error_ne_ok ?_
              simp [hnames, hmissing]
          | ok b =>
              cases b with
              | true =>
                  simp only [Except.mapError, if_true]
                  rw [Work.run_bind, Work.run_files, list_of_namesAt_eq_none hnames hmissing]
                  refine iff_of_false Work.error_ne_ok ?_
                  simp [hnames, hmissing]
              | false =>
                  have hlog : (log .warning (missingMessage folder)).run.run w =
                      (.ok (), w.told .warning (missingMessage folder)) := rfl
                  simp only [Except.mapError, Bool.false_eq_true, if_false]
                  rw [Work.run_bind, hlog]
                  dsimp only
                  rw [Work.run_pure, Work.ok_eq_ok]
                  simp [hnames, hmissing]

/-! ### Opening -/

theorem parseOr_eq_parseName {α : Type} [Nameable α] (a : Argument) (m : Member) :
    (parseOr a m : Work α) = parseName (a.orMember m) := rfl

/-- Once the defaults are known, the built-in templates are registered and the directory is read. -/
theorem run_openWith {o : Options} {s : Settings} {framework : Framework} {style : Style}
    (hframework : (o.framework.orMember (.framework s.framework)).parse = .ok framework)
    (hstyle : (o.style.orMember (.style s.style)).parse = .ok style) (w : World) :
    (openWith o s).run.run w =
      (addCustom (fresh o.directory framework style)).run.run (registerAll Key.all w) := by
  rw [openWith, Work.run_bind, parseOr_eq_parseName, run_parseName, hframework]
  simp only [Except.mapError]
  rw [Work.run_bind, parseOr_eq_parseName, run_parseName, hstyle]
  simp only [Except.mapError]
  rw [Work.run_bind, run_builtins]
  rfl

/-- **What it takes to open a library**: the defaults are known, and the directory can be read. -/
theorem openWith_eq_ok {o : Options} {s : Settings} {l : Library} {w w' : World} :
    (openWith o s).run.run w = (.ok l, w') ↔
      ∃ framework style, (o.framework.orMember (.framework s.framework)).parse = .ok framework ∧
        (o.style.orMember (.style s.style)).parse = .ok style ∧
        (addCustom (fresh o.directory framework style)).run.run (registerAll Key.all w) =
          (.ok l, w') := by
  rw [openWith]
  simp only [Work.bind_eq_ok, parseOr_eq_parseName, parseName_eq_ok]
  constructor
  · rintro ⟨framework, _, ⟨hframework, rfl⟩, style, _, ⟨hstyle, rfl⟩, c, w₁, hbuiltins, h⟩
    rw [run_builtins] at hbuiltins
    obtain ⟨rfl, rfl⟩ := Work.ok_eq_ok.1 hbuiltins
    exact ⟨framework, style, hframework, hstyle, h⟩
  · rintro ⟨framework, style, hframework, hstyle, h⟩
    exact ⟨framework, w, ⟨hframework, rfl⟩, style, w, ⟨hstyle, rfl⟩, _, _, run_builtins w, h⟩

/-- **What an opened library was made of**: the built-in templates alone, where it has no directory
or its directory is missing, or what the files of its directory made of them. -/
theorem opened_cases {o : Options} {s : Settings} {l : Library} {w w' : World}
    (h : (openWith o s).run.run w = (.ok l, w')) :
    ∃ framework style,
      (folder? o.directory = none ∧ l = fresh o.directory framework style ∧
        w' = registerAll Key.all w) ∨
      (∃ folder, folder? o.directory = some folder ∧
        namesAt (registerAll Key.all w).files folder = none ∧
        (registerAll Key.all w).files.isDirectory folder = .ok false ∧
        l = fresh o.directory framework style ∧
        w' = (registerAll Key.all w).told .warning (missingMessage folder)) ∨
      ∃ folder names, folder? o.directory = some folder ∧
        namesAt (registerAll Key.all w).files folder = some names ∧
        AllAddable folder names (fresh o.directory framework style) (registerAll Key.all w) ∧
        tryNames folder names (fresh o.directory framework style) (registerAll Key.all w) =
          (l, w') := by
  obtain ⟨framework, style, -, -, hcustom⟩ := openWith_eq_ok.1 h
  have hdirectory : (fresh o.directory framework style).directory = o.directory := rfl
  rw [addCustom_eq_ok, hdirectory] at hcustom
  refine ⟨framework, style, ?_⟩
  cases hfolder : folder? o.directory with
  | none =>
      simp only [hfolder] at hcustom
      exact Or.inl ⟨rfl, hcustom.1.symm, hcustom.2.symm⟩
  | some folder =>
      simp only [hfolder] at hcustom
      cases hnames : namesAt (registerAll Key.all w).files folder with
      | none =>
          simp only [hnames] at hcustom
          obtain ⟨hmissing, rfl, rfl⟩ := hcustom
          exact Or.inr (Or.inl ⟨folder, rfl, hnames, hmissing, rfl, rfl⟩)
      | some names =>
          simp only [hnames] at hcustom
          exact Or.inr (Or.inr ⟨folder, names, rfl, hnames, hcustom⟩)

/-- Opening a library changes nothing but the journal and its log files. -/
theorem noted_openWith {o : Options} {s : Settings} {l : Library} {w w' : World}
    (h : (openWith o s).run.run w = (.ok l, w')) : w.Noted w' := by
  refine (noted_registerAll Key.all w).trans ?_
  obtain ⟨framework, style, ⟨-, -, rfl⟩ | ⟨folder, -, -, -, -, rfl⟩ |
    ⟨folder, names, -, -, -, htry⟩⟩ := opened_cases h
  · exact .refl _
  · exact World.noted_told _ _ _
  · have hnoted := noted_tryNames folder names (fresh o.directory framework style)
      (registerAll Key.all w)
    rwa [htry] at hnoted

/-! ### What it takes to open a library -/

/-- No file stops the opening exactly if none would at first. -/
theorem allAddable_iff {folder : Files.Path} {names : List String} {l : Library} {w w' : World}
    (h : w.Noted w')
    (hlogs : ∀ name ∈ names, isEligible w.files (folder.child name) = true →
      ¬ w.LogsTo (folder.child name)) :
    AllAddable folder names l w' ↔ ∀ name ∈ names, Addable w.files (folder.child name) := by
  -- each file is tried in a world in which only the journal has changed
  induction names generalizing l w' with
  | nil => simp [AllAddable]
  | cons name names ih =>
      have hnoted := h.trans (noted_tryFile (folder.child name) l w')
      rw [AllAddable, List.forall_mem_cons, addable_of_noted h (hlogs name (by simp)),
        ih hnoted fun other hother => hlogs other (List.mem_cons_of_mem _ hother)]

/-- The files of a directory that may describe a template are no log files. -/
def Apart (w : World) (folder : Files.Path) (location : Files.Location) : Prop :=
  ∀ name ∈ w.files.namesIn location, isEligible w.files (folder.child name) = true →
    ¬ w.LogsTo (folder.child name)

theorem mem_names_of_noted {w w' : World} (h : w.Noted w') {location : Files.Location}
    {name : String} :
    name ∈ sortNames (w'.files.namesIn location) ↔ name ∈ w.files.namesIn location := by
  rw [mem_sortNames, h.files.mem_namesIn]

theorem isDirectory_of_noted {w w' : World} (h : w.Noted w') (folder : Files.Path) :
    w'.files.isDirectory folder = w.files.isDirectory folder := by
  rw [isDirectory, isDirectory, inspect, inspect]
  rcases h.files.locate_cases folder with
    ⟨e, ht, ht'⟩ | ⟨l, ht, ht'⟩ | ⟨l, ht, ht'⟩ | ⟨l, bytes, bytes', ht, ht', -⟩
  · rw [ht, ht']
  · rw [ht, ht']
  · rw [ht, ht']
  · rw [ht, ht']
    rfl

theorem isAt_of_noted {w w' : World} (h : w.Noted w') {folder : Files.Path}
    {location : Files.Location} (hisAt : w.files.IsAt folder location) :
    w'.files.IsAt folder location := h.files.locate_directory hisAt

theorem listable_of_noted {w w' : World} (h : w.Noted w') {folder : Files.Path}
    {location : Files.Location} (hlistable : w.files.Listable folder location) :
    w'.files.Listable folder location :=
  ⟨isAt_of_noted h hlistable.isAt, mt (denies_congr h.files.denied).1 hlistable.allowed⟩

theorem namesAt_of_noted {w w' : World} (h : w.Noted w') {folder : Files.Path}
    {location : Files.Location} (hlistable : w.files.Listable folder location) :
    namesAt w'.files folder = some (sortNames (w'.files.namesIn location)) :=
  namesAt_eq_some.2 ⟨location, listable_of_noted h hlistable, rfl⟩

/-- An opened library has a directory that can be listed and holds nothing harmful, or that is
missing. -/
theorem of_opened {o : Options} {s : Settings} {l : Library} {w w' : World} {folder : Files.Path}
    (h : (openWith o s).run.run w = (.ok l, w')) (hfolder : folder? o.directory = some folder) :
    (∃ location, w.files.Listable folder location ∧ (Apart w folder location →
      ∀ name ∈ w.files.namesIn location, Addable w.files (folder.child name))) ∨
    w.files.isDirectory folder = .ok false := by
  have hnoted := noted_registerAll Key.all w
  obtain ⟨framework, style, ⟨hnone, -⟩ | ⟨folder', hfolder', -, hmissing, -⟩ |
    ⟨folder', names, hfolder', hnames, hall, -⟩⟩ := opened_cases h
  · exact absurd (hnone.symm.trans hfolder) (by simp)
  · obtain rfl := Option.some.inj (hfolder'.symm.trans hfolder)
    rw [← isDirectory_of_noted hnoted]
    exact Or.inr hmissing
  · obtain rfl := Option.some.inj (hfolder'.symm.trans hfolder)
    obtain ⟨location, hlistable, rfl⟩ := namesAt_eq_some.1 hnames
    obtain ⟨location', hisAt⟩ : ∃ location, w.files.IsAt folder' location := by
      have htrue := isDirectory_of_isAt hlistable.isAt
      rw [isDirectory_of_noted hnoted] at htrue
      exact isAt_of_isDirectory htrue
    obtain rfl := (isAt_of_noted hnoted hisAt).unique hlistable.isAt
    have hlocation : w.files.Listable folder' location' :=
      ⟨hisAt, mt (denies_congr hnoted.files.denied).2 hlistable.allowed⟩
    refine Or.inl ⟨location', hlocation, fun hapart name hname => ?_⟩
    refine (allAddable_iff hnoted fun other hother => ?_).1 hall name
      ((mem_names_of_noted hnoted).2 hname)
    exact hapart other ((mem_names_of_noted hnoted).1 hother)

/-- So it can be listed, if it is there. -/
theorem listable_of_opened {o : Options} {s : Settings} {l : Library} {w w' : World}
    {folder : Files.Path} {location : Files.Location}
    (h : (openWith o s).run.run w = (.ok l, w')) (hfolder : folder? o.directory = some folder)
    (hisAt : w.files.IsAt folder location) : w.files.Listable folder location := by
  rcases of_opened h hfolder with ⟨location', hlistable, -⟩ | hmissing
  · obtain rfl := hlistable.isAt.unique hisAt
    exact hlistable
  · rw [isDirectory_of_isAt hisAt] at hmissing
    exact absurd hmissing (by simp)

/-- An argument that names a member, or is left out. -/
def IsNameOrLeft (α : Type) [Nameable α] (a : Argument) : Prop :=
  a.isTrue = true → ∃ x : α, a.parse = .ok x

theorem exists_parse_orMember {α : Type} [Nameable α] {a : Argument} (h : IsNameOrLeft α a)
    {m : Member} {y : α} (hm : (Argument.member m).parse = .ok y) :
    ∃ x : α, (a.orMember m).parse = .ok x := by
  rw [Argument.orMember]
  split
  · rename_i hgiven
    exact h hgiven
  · exact ⟨y, hm⟩

/-- **What it takes to open a library**: its directory can be listed and holds nothing harmful, or
is missing. -/
theorem exists_opened {o : Options} (s : Settings) {w : World}
    (hframework : IsNameOrLeft Framework o.framework) (hstyle : IsNameOrLeft Style o.style)
    (h : ∀ folder, folder? o.directory = some folder →
      (∃ location, w.files.Listable folder location ∧ Apart w folder location ∧
        ∀ name ∈ w.files.namesIn location, Addable w.files (folder.child name)) ∨
      w.files.isDirectory folder = .ok false) :
    ∃ l w', (openWith o s).run.run w = (.ok l, w') := by
  have hnoted := noted_registerAll Key.all w
  obtain ⟨framework, hframework⟩ :=
    exists_parse_orMember hframework (Argument.parse_framework s.framework)
  obtain ⟨style, hstyle⟩ := exists_parse_orMember hstyle (Argument.parse_style s.style)
  obtain ⟨l, w', hcustom⟩ : ∃ l w', (addCustom (fresh o.directory framework style)).run.run
      (registerAll Key.all w) = (.ok l, w') := by
    have hdirectory : (fresh o.directory framework style).directory = o.directory := rfl
    simp only [addCustom_eq_ok, hdirectory]
    cases hfolder : folder? o.directory with
    | none => exact ⟨_, _, rfl, rfl⟩
    | some folder =>
        dsimp only
        rcases h folder hfolder with ⟨location, hlocation, hapart, haddable⟩ | hmissing
        · rw [namesAt_of_noted hnoted hlocation]
          refine ⟨_, _, (allAddable_iff hnoted fun name hname => ?_).2 fun name hname => ?_, rfl⟩
          · exact hapart name ((mem_names_of_noted hnoted).1 hname)
          · exact haddable name ((mem_names_of_noted hnoted).1 hname)
        · cases hnames : namesAt (registerAll Key.all w).files folder with
          | none => exact ⟨_, _, (isDirectory_of_noted hnoted folder).trans hmissing, rfl, rfl⟩
          | some names =>
              obtain ⟨location, hlistable, -⟩ := namesAt_eq_some.1 hnames
              have htrue := isDirectory_of_isAt hlistable.isAt
              rw [isDirectory_of_noted hnoted, hmissing] at htrue
              exact absurd htrue (by simp)
  exact ⟨l, w', openWith_eq_ok.2 ⟨framework, style, hframework, hstyle, hcustom⟩⟩

/-! ### Openings that fail -/

/-- Whatever becomes of a file, nothing but the journal and its log files changes. -/
theorem noted_run_addFile (l : Library) (p : Files.Path) (w : World) :
    w.Noted ((l.addFile p).run.run w).2 := by
  rcases addFile_cases l p w with ⟨e, -, hrun⟩ | ⟨f, -, -, -, hrun⟩ | ⟨-, hrun⟩
  · rw [hrun]
    exact .refl w
  · rw [hrun]
    exact .refl w
  · rw [hrun]
    exact noted_tryFile p l w

theorem noted_run_foldlM (folder : Files.Path) (names : List String) (l : Library) (w : World) :
    w.Noted ((names.foldlM (fun (l : Library) name => l.addFile (folder.child name)) l).run.run
      w).2 := by
  induction names generalizing l w with
  | nil => exact .refl w
  | cons name names ih =>
      have hfirst := noted_run_addFile l (folder.child name) w
      rw [List.foldlM_cons, Work.run_bind]
      generalize (l.addFile (folder.child name)).run.run w = outcome at hfirst ⊢
      rcases outcome with ⟨e | l', w'⟩
      · exact hfirst
      · exact hfirst.trans (ih l' w')

theorem noted_run_addCustom (l : Library) (w : World) : w.Noted (l.addCustom.run.run w).2 := by
  cases hfolder : folder? l.directory with
  | none =>
      rw [addCustom_of_none hfolder]
      exact .refl w
  | some folder =>
      rw [addCustom_of_some hfolder, Work.run_bind, Work.run_files]
      cases w.files.isDirectory folder with
      | error e => exact .refl w
      | ok there =>
          cases there with
          | false => exact World.noted_told w .warning (missingMessage folder)
          | true =>
              simp only [Except.mapError, if_true]
              rw [Work.run_bind, Work.run_files]
              cases w.files.list folder with
              | error e => exact .refl w
              | ok names => exact noted_run_foldlM folder names l w

/-- **Whatever becomes of the opening of a library**, nothing but the journal and its log files
changes. -/
theorem noted_run_openWith {o : Options} (s : Settings) (w : World)
    (hframework : IsNameOrLeft Framework o.framework) (hstyle : IsNameOrLeft Style o.style) :
    w.Noted ((openWith o s).run.run w).2 := by
  obtain ⟨framework, hframework⟩ :=
    exists_parse_orMember hframework (Argument.parse_framework s.framework)
  obtain ⟨style, hstyle⟩ := exists_parse_orMember hstyle (Argument.parse_style s.style)
  rw [run_openWith hframework hstyle]
  exact (noted_registerAll Key.all w).trans (noted_run_addCustom _ _)

end EntryTemplates.Library
