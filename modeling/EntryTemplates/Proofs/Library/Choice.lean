/-
**Which file provides each template.**

While a library is opened, each file of its directory that may describe a template is read once, in
the order of the names.  What becomes of the files depends on nothing but what was found in them:
the first template for a key is loaded, later ones for the same key are skipped.

Main definitions:

* `EntryTemplates.Library.Attempt` — a file, and what was found in it;
* `EntryTemplates.Library.attempts` — the files that are read, each in its turn;
* `EntryTemplates.Library.outcomes` — what becomes of them;
* `EntryTemplates.Library.offered?` — the first template for a key.

Main results:

* `EntryTemplates.Library.tryNames_eq` — **names are tried by way of their outcomes**;
* `EntryTemplates.Library.find?_libraryAfter` — the library serves the first template;
* `EntryTemplates.Library.opened_from_least` — **where the templates of an opened library come
  from, and what the journal says about the files**.
-/

import Mathlib.Data.List.Nodup
import EntryTemplates.Proofs.Files.Names
import EntryTemplates.Proofs.Library.Opening
import EntryTemplates.Proofs.Library.RoundTrip

set_option relaxedAutoImplicit false
set_option autoImplicit false

namespace EntryTemplates.Library

open Files.Tree

/-! ### Attempts and their outcomes -/

/-- A file of a directory, and what was found in it. -/
structure Attempt where
  name : String
  read : Except Unusable Template

/-- A file in which a template for a key was found. -/
def Attempt.Offers (a : Attempt) (k : Key) (t : Template) : Prop := a.read = .ok t ∧ t.key = k

/-- The keys of the custom templates after a file. -/
def Outcome.custom (custom : List Key) : Outcome → List Key
  | .failed _ => custom
  | .skipped _ => custom
  | .loaded t => custom ++ [t.key]

/-- The files among some names that may describe a template, each read in its turn. -/
def attempts (folder : Files.Path) : List String → List Key → World → List Attempt
  | [], _, _ => []
  | name :: names, custom, w =>
      let p := folder.child name
      if isEligible w.files p then
        let read := templateOfFile w.files p
        let o := Outcome.of custom read
        ⟨name, read⟩ :: attempts folder names (o.custom custom) (o.world p w)
      else attempts folder names custom w

/-- What becomes of files. -/
def outcomes (custom : List Key) : List Attempt → List (String × Outcome)
  | [] => []
  | a :: rest =>
      let o := Outcome.of custom a.read
      (a.name, o) :: outcomes (o.custom custom) rest

/-- The library after some outcomes. -/
def libraryAfter (l : Library) (os : List (String × Outcome)) : Library :=
  os.foldl (fun l o => o.2.library l) l

/-- The world after some outcomes. -/
def worldAfter (folder : Files.Path) (w : World) (os : List (String × Outcome)) : World :=
  os.foldl (fun w o => o.2.world (folder.child o.1) w) w

/-- The first template for a key. -/
def offered? (k : Key) : List Attempt → Option Template
  | [] => none
  | ⟨_, .ok t⟩ :: rest => if t.key = k then some t else offered? k rest
  | ⟨_, .error _⟩ :: rest => offered? k rest

theorem custom_library (l : Library) (read : Except Unusable Template) :
    ((Outcome.of l.custom read).library l).custom = (Outcome.of l.custom read).custom l.custom := by
  cases read with
  | error e => rfl
  | ok t =>
      by_cases h : l.custom.contains t.key = true
      · simp only [Outcome.of, h, if_true, Outcome.library, Outcome.custom]
      · simp only [Outcome.of, h, Bool.false_eq_true, if_false, Outcome.library, Outcome.custom,
          adopt]

/-- **Names are tried by way of their outcomes.** -/
theorem tryNames_eq (folder : Files.Path) (names : List String) (l : Library) (w : World) :
    tryNames folder names l w =
      let os := outcomes l.custom (attempts folder names l.custom w)
      (libraryAfter l os, worldAfter folder w os) := by
  -- of the library only its custom keys matter to what becomes of the files
  induction names generalizing l w with
  | nil => rfl
  | cons name names ih =>
      rw [tryNames, tryFile, attempts]
      by_cases helig : isEligible w.files (folder.child name) = true
      · obtain ⟨o, ho⟩ : ∃ o,
            o = Outcome.of l.custom (templateOfFile w.files (folder.child name)) := ⟨_, rfl⟩
        have hrest := ih (o.library l) (o.world (folder.child name) w)
        have hcustom : (o.library l).custom = o.custom l.custom := by
          rw [ho]
          exact custom_library l _
        rw [hcustom] at hrest
        simp only [helig, if_true, outcomes, ← ho]
        exact hrest
      · simp only [helig, Bool.false_eq_true, if_false]
        exact ih l w

/-! ### Which files are read, and what is found in them -/

/-- The files that are read are those that may describe a template, in the order of the names. -/
theorem map_name_attempts {w w' : World} (h : w.Noted w') (folder : Files.Path)
    (names : List String) (custom : List Key) :
    (attempts folder names custom w').map Attempt.name =
      names.filter fun name => isEligible w.files (folder.child name) := by
  induction names generalizing custom w' with
  | nil => rfl
  | cons name names ih =>
      have helig := isEligible_of_noted h (folder.child name)
      rw [attempts, List.filter_cons, ← helig]
      split
      · rw [List.map_cons, ih (h.trans (noted_world _ _ _))]
      · exact ih h custom

/-- Each file is read in a world that only its journal has changed. -/
theorem exists_read_of_mem {w w' : World} (h : w.Noted w') {folder : Files.Path}
    {names : List String} {custom : List Key} {a : Attempt}
    (ha : a ∈ attempts folder names custom w') :
    ∃ w₁, w.Noted w₁ ∧ a.read = templateOfFile w₁.files (folder.child a.name) := by
  induction names generalizing custom w' with
  | nil => exact absurd ha (by simp [attempts])
  | cons name names ih =>
      rw [attempts] at ha
      split at ha
      · rcases List.mem_cons.1 ha with rfl | ha
        · exact ⟨w', h, rfl⟩
        · exact ih (h.trans (noted_world _ _ _)) ha
      · exact ih h ha

/-- **What is found in a file that is no log file is what it held before.** -/
theorem read_of_mem_attempts {w w' : World} (h : w.Noted w') {folder : Files.Path}
    {names : List String} {custom : List Key} {a : Attempt}
    (ha : a ∈ attempts folder names custom w') (hlog : ¬ w.LogsTo (folder.child a.name)) :
    a.read = templateOfFile w.files (folder.child a.name) := by
  obtain ⟨w₁, hnoted, hread⟩ := exists_read_of_mem h ha
  rw [hread, templateOfFile_of_noted hnoted hlog]

/-! ### The first template for a key -/

theorem offered?_eq_none_iff {k : Key} {as : List Attempt} :
    offered? k as = none ↔ ∀ a ∈ as, ∀ t, ¬ a.Offers k t := by
  induction as with
  | nil => simp [offered?]
  | cons a as ih =>
      obtain ⟨name, e | t⟩ := a
      · rw [offered?, ih]
        simp [Attempt.Offers]
      · rw [offered?]
        split
        · rename_i hkey
          simp [Attempt.Offers, hkey]
        · rename_i hkey
          rw [ih]
          simp [Attempt.Offers, hkey]

/-- Where the names are in their order, the first template is that of the least name. -/
theorem least_of_offered? {k : Key} {as : List Attempt} {t : Template}
    (hsorted : (as.map Attempt.name).Pairwise (· ≤ ·)) (h : offered? k as = some t) :
    ∃ a ∈ as, a.Offers k t ∧ ∀ b ∈ as, ∀ u, b.Offers k u → a.name ≤ b.name := by
  induction as with
  | nil => exact absurd h (by simp [offered?])
  | cons a as ih =>
      rw [List.map_cons, List.pairwise_cons] at hsorted
      obtain ⟨hleast, hsorted⟩ := hsorted
      -- a file that offers nothing for the key leaves the choice to those after it
      have hrest (hnone : ∀ u, ¬ a.Offers k u) (hlater : offered? k as = some t) :
          ∃ b ∈ a :: as, b.Offers k t ∧ ∀ c ∈ a :: as, ∀ u, c.Offers k u → b.name ≤ c.name := by
        obtain ⟨b, hb, hoffers, hall⟩ := ih hsorted hlater
        refine ⟨b, List.mem_cons_of_mem _ hb, hoffers, fun c hc u hu => ?_⟩
        rcases List.mem_cons.1 hc with rfl | hc
        · exact absurd hu (hnone u)
        · exact hall c hc u hu
      obtain ⟨name, e | u⟩ := a
      · exact hrest (by simp [Attempt.Offers]) h
      · rw [offered?] at h
        split at h
        · rename_i hkey
          obtain rfl := Option.some.inj h
          refine ⟨⟨name, .ok u⟩, by simp, ⟨rfl, hkey⟩, fun c hc v _ => ?_⟩
          rcases List.mem_cons.1 hc with rfl | hc
          · exact le_rfl
          · exact hleast c.name (List.mem_map_of_mem hc)
        · rename_i hkey
          exact hrest (by simp [Attempt.Offers, hkey]) h

/-! ### The library afterwards -/

theorem libraryAfter_cons (l : Library) (a : Attempt) (as : List Attempt) :
    libraryAfter l (outcomes l.custom (a :: as)) =
      libraryAfter ((Outcome.of l.custom a.read).library l)
        (outcomes ((Outcome.of l.custom a.read).library l).custom as) := by
  rw [outcomes, libraryAfter, List.foldl_cons, ← custom_library]
  rfl

theorem mem_custom_libraryAfter (l : Library) (as : List Attempt) (k : Key) :
    k ∈ (libraryAfter l (outcomes l.custom as)).custom ↔
      k ∈ l.custom ∨ ∃ a ∈ as, ∃ t, a.Offers k t := by
  induction as generalizing l with
  | nil => simp [outcomes, libraryAfter]
  | cons a as ih =>
      rw [libraryAfter_cons, ih, List.exists_mem_cons_iff, ← or_assoc]
      refine or_congr ?_ Iff.rfl
      obtain ⟨name, e | t⟩ := a
      · simp [Outcome.of, Outcome.library, Attempt.Offers]
      · simp only [Outcome.of, Attempt.Offers, Except.ok.injEq, exists_eq_left']
        split
        · rename_i htaken
          have hmem : t.key ∈ l.custom := by simpa using htaken
          refine ⟨Or.inl, ?_⟩
          rintro (hk | rfl)
          · exact hk
          · exact hmem
        · rw [Outcome.library, mem_custom_adopt, or_comm, eq_comm]

/-- **The library serves the first template for a key** for which it had no custom one. -/
theorem find?_libraryAfter (l : Library) (as : List Attempt) (k : Key) :
    (libraryAfter l (outcomes l.custom as)).catalogue.find? k =
      if k ∈ l.custom then l.catalogue.find? k
      else (offered? k as).or (l.catalogue.find? k) := by
  induction as generalizing l with
  | nil => simp [outcomes, libraryAfter, offered?]
  | cons a as ih =>
      rw [libraryAfter_cons, ih]
      obtain ⟨name, e | t⟩ := a
      · rfl
      · rw [Outcome.of, offered?]
        split
        · rename_i htaken
          have hmem : t.key ∈ l.custom := by simpa using htaken
          -- what is skipped is for a key that has its template already
          by_cases hkey : t.key = k
          · rw [Outcome.library, if_pos (hkey ▸ hmem), if_pos (hkey ▸ hmem)]
          · rw [Outcome.library, if_neg hkey]
        · rename_i hfree
          have hmem : t.key ∉ l.custom := by simpa using hfree
          simp only [Outcome.library, mem_custom_adopt, find?_adopt]
          by_cases hkey : t.key = k
          · subst hkey
            simp [hmem]
          · simp [hkey, Ne.symm hkey]

/-- The key of a template that is loaded. -/
def Outcome.loadedKey? : Outcome → Option Key
  | .loaded t => some t.key
  | _ => none

theorem custom_eq_append (custom : List Key) (o : Outcome) :
    o.custom custom = custom ++ o.loadedKey?.toList := by
  cases o <;> simp [Outcome.custom, Outcome.loadedKey?]

/-- The keys of the custom templates are those of the templates that were loaded. -/
theorem custom_libraryAfter (l : Library) (as : List Attempt) :
    (libraryAfter l (outcomes l.custom as)).custom =
      l.custom ++ (outcomes l.custom as).filterMap fun o => o.2.loadedKey? := by
  induction as generalizing l with
  | nil => simp [outcomes, libraryAfter]
  | cons a as ih =>
      rw [libraryAfter_cons, ih, custom_library, custom_eq_append, outcomes, custom_eq_append,
        List.filterMap_cons]
      cases (Outcome.of l.custom a.read).loadedKey? <;> simp

theorem nodup_custom_libraryAfter {l : Library} (h : l.custom.Nodup) (as : List Attempt) :
    (libraryAfter l (outcomes l.custom as)).custom.Nodup := by
  induction as generalizing l with
  | nil => exact h
  | cons a as ih =>
      rw [libraryAfter_cons]
      refine ih ?_
      obtain ⟨name, e | t⟩ := a
      · exact h
      · rw [Outcome.of]
        split
        · exact h
        · rename_i hfree
          have hmem : t.key ∉ l.custom := by simpa using hfree
          simp only [Outcome.library, adopt, hfree, Bool.false_eq_true, if_false]
          rw [List.nodup_append]
          refine ⟨h, List.nodup_singleton _, fun k hk k' hk' => ?_⟩
          rw [List.mem_singleton.1 hk']
          rintro rfl
          exact hmem hk

theorem directory_libraryAfter (l : Library) (os : List (String × Outcome)) :
    (libraryAfter l os).directory = l.directory := by
  induction os generalizing l with
  | nil => rfl
  | cons o os ih =>
      obtain ⟨name, o⟩ := o
      refine (ih (o.library l)).trans ?_
      cases o <;> rfl

/-! ### What the journal says -/

/-- What is said about a file. -/
def entryAbout (folder : Files.Path) (o : String × Outcome) : Int × String :=
  (o.2.level.level, o.2.message (folder.child o.1))

theorem said_registered (w : World) (t : Template) :
    (w.registered t).said "template_manager" = w.said "template_manager" :=
  World.said_logged_of_ne w (by decide) _ (by decide) (by decide)

theorem said_told (w : World) {level : LevelName} (message : String)
    (h : Journal.leastLevel ≤ level.level) :
    (w.told level message).said "template_manager" =
      w.said "template_manager" ++ [(level.level, message)] :=
  World.said_logged w (by decide) message h

theorem said_world (folder : Files.Path) (w : World) (o : String × Outcome) :
    (o.2.world (folder.child o.1) w).said "template_manager" =
      w.said "template_manager" ++ [entryAbout folder o] := by
  obtain ⟨name, o⟩ := o
  have hwarning : Journal.leastLevel ≤ LevelName.warning.level := by decide
  have hinfo : Journal.leastLevel ≤ LevelName.info.level := by decide
  cases o with
  | failed e => exact said_told w _ hwarning
  | skipped t => exact said_told w _ hwarning
  | loaded t =>
      have htold :=
        said_told (w.registered t) (Outcome.message (folder.child name) (.loaded t)) hinfo
      rw [said_registered] at htold
      exact htold

/-- **Each file is told of once**, in the order of the names. -/
theorem said_worldAfter (folder : Files.Path) (w : World) (os : List (String × Outcome)) :
    (worldAfter folder w os).said "template_manager" =
      w.said "template_manager" ++ os.map (entryAbout folder) := by
  induction os generalizing w with
  | nil => simp [worldAfter]
  | cons o os ih =>
      have hrest := ih (o.2.world (folder.child o.1) w)
      rw [said_world, List.append_assoc] at hrest
      exact hrest

theorem said_registerAll (ks : List Key) (w : World) :
    (registerAll ks w).said "template_manager" = w.said "template_manager" := by
  induction ks generalizing w with
  | nil => rfl
  | cons k ks ih => exact (ih _).trans (said_registered w (builtin k))

/-! ### Opening -/

/-- The files that are read when a library is opened. -/
def openingAttempts (directory : Option String) (w : World) : List Attempt :=
  let w := registerAll Key.all w
  match folder? directory with
  | none => []
  | some folder => attempts folder ((namesAt w.files folder).getD []) [] w

/-- What is said when a library is opened: something about each file that was read, or that the
directory is missing. -/
def openingEntries (directory : Option String) (w : World) : List (Int × String) :=
  match folder? directory with
  | none => []
  | some folder =>
      match namesAt (registerAll Key.all w).files folder with
      | none => [(LevelName.warning.level, missingMessage folder)]
      | some _ => (outcomes [] (openingAttempts directory w)).map (entryAbout folder)

/-- **What a library is opened as, and what is said of it.** -/
theorem opened_eq {o : Options} {s : Settings} {l : Library} {w w' : World}
    (h : (openWith o s).run.run w = (.ok l, w')) :
    (∃ framework style, l = libraryAfter (fresh o.directory framework style)
      (outcomes [] (openingAttempts o.directory w))) ∧
    w'.said "template_manager" =
      w.said "template_manager" ++ openingEntries o.directory w := by
  obtain ⟨framework, style, hcases⟩ := opened_cases h
  rcases hcases with ⟨hfolder, rfl, rfl⟩ | ⟨folder, hfolder, hnames, -, rfl, rfl⟩ |
    ⟨folder, names, hfolder, hnames, -, htry⟩
  · have hattempts : openingAttempts o.directory w = [] := by simp [openingAttempts, hfolder]
    rw [hattempts, said_registerAll]
    exact ⟨⟨framework, style, rfl⟩, by simp [openingEntries, hfolder]⟩
  · have hattempts : openingAttempts o.directory w = [] := by
      simp [openingAttempts, hfolder, hnames, attempts]
    rw [hattempts, said_told _ _ (by decide), said_registerAll]
    exact ⟨⟨framework, style, rfl⟩, by simp [openingEntries, hfolder, hnames]⟩
  · have hattempts : openingAttempts o.directory w =
        attempts folder names [] (registerAll Key.all w) := by
      simp [openingAttempts, hfolder, hnames]
    rw [tryNames_eq] at htry
    obtain ⟨rfl, rfl⟩ := Prod.mk.inj htry
    rw [hattempts, said_worldAfter, said_registerAll, openingEntries, hfolder]
    simp only [hnames, hattempts]
    exact ⟨⟨framework, style, rfl⟩, rfl⟩

/-- The files that are read do not depend on the order in which the directory lists its names. -/
theorem map_name_openingAttempts {directory : Option String} {w : World}
    (hdistinct : w.files.Distinct) {folder : Files.Path} (hfolder : folder? directory = some folder)
    {location : Files.Location} (hlistable : w.files.Listable folder location)
    {names : List String} (hnames : names.Perm (w.files.namesIn location)) :
    (openingAttempts directory w).map Attempt.name =
      (Files.Tree.sortNames names).filter fun name => isEligible w.files (folder.child name) := by
  have hnoted := noted_registerAll Key.all w
  have hperm := (hnoted.files.perm_namesIn hdistinct location).trans hnames.symm
  rw [openingAttempts, hfolder]
  simp only [namesAt_of_noted hnoted hlistable, Option.getD_some]
  rw [map_name_attempts hnoted, Files.Tree.sortNames_eq_of_perm hperm]

/-- The files that are read are those that may describe a template. -/
theorem mem_map_name_openingAttempts {directory : Option String} {w : World} {folder : Files.Path}
    (hfolder : folder? directory = some folder) {location : Files.Location}
    (hlistable : w.files.Listable folder location) {name : String} :
    name ∈ (openingAttempts directory w).map Attempt.name ↔
      name ∈ w.files.namesIn location ∧ isEligible w.files (folder.child name) = true := by
  have hnoted := noted_registerAll Key.all w
  rw [openingAttempts, hfolder]
  simp only [namesAt_of_noted hnoted hlistable, Option.getD_some]
  rw [map_name_attempts hnoted, List.mem_filter, Files.Tree.mem_sortNames,
    hnoted.files.mem_namesIn]

theorem pairwise_openingAttempts (directory : Option String) (w : World) :
    ((openingAttempts directory w).map Attempt.name).Pairwise (· ≤ ·) := by
  rw [openingAttempts]
  split
  · simp
  · rename_i folder _
    rw [map_name_attempts (.refl _)]
    refine List.Pairwise.filter _ ?_
    cases hnames : namesAt (registerAll Key.all w).files folder with
    | none => exact List.Pairwise.nil
    | some names =>
        obtain ⟨location, -, rfl⟩ := namesAt_eq_some.1 hnames
        exact Files.Tree.pairwise_sortNames _

theorem nodup_openingAttempts (directory : Option String) {w : World}
    (hdistinct : w.files.Distinct) : ((openingAttempts directory w).map Attempt.name).Nodup := by
  have hnoted := noted_registerAll Key.all w
  rw [openingAttempts]
  split
  · simp
  · rename_i folder _
    rw [map_name_attempts (.refl _)]
    refine List.Nodup.filter _ ?_
    cases hnames : namesAt (registerAll Key.all w).files folder with
    | none => exact List.nodup_nil
    | some names =>
        obtain ⟨location, -, rfl⟩ := namesAt_eq_some.1 hnames
        exact (List.mergeSort_perm _ _).nodup_iff.2
          (Files.Tree.nodup_namesIn (hnoted.files.distinct hdistinct) _)

theorem read_openingAttempts {directory : Option String} {w : World} {folder : Files.Path}
    (hfolder : folder? directory = some folder) {a : Attempt}
    (ha : a ∈ openingAttempts directory w) (hlog : ¬ w.LogsTo (folder.child a.name)) :
    a.read = templateOfFile w.files (folder.child a.name) := by
  rw [openingAttempts, hfolder] at ha
  exact read_of_mem_attempts (noted_registerAll Key.all w) ha hlog

/-- The first template for a key is served, or else the built-in one. -/
theorem find?_opened {o : Options} {s : Settings} {l : Library} {w w' : World}
    (h : (openWith o s).run.run w = (.ok l, w')) (k : Key) :
    l.catalogue.find? k = some ((offered? k (openingAttempts o.directory w)).getD (builtin k)) := by
  obtain ⟨⟨framework, style, rfl⟩, -⟩ := opened_eq h
  have hfind := find?_libraryAfter (fresh o.directory framework style)
    (openingAttempts o.directory w) k
  have hcustom : k ∉ (fresh o.directory framework style).custom := List.not_mem_nil
  rw [if_neg hcustom, find?_fresh] at hfind
  refine hfind.trans ?_
  cases offered? k (openingAttempts o.directory w) <;> rfl

/-- The same files offer the same templates, however many others are read. -/
theorem offered?_congr {k : Key} {as bs : List Attempt}
    (has : (as.map Attempt.name).Pairwise (· ≤ ·)) (hbs : (bs.map Attempt.name).Pairwise (· ≤ ·))
    (hnames : (as.map Attempt.name).Nodup)
    (hsame : ∀ a : Attempt, (∃ t, a.read = .ok t) → (a ∈ as ↔ a ∈ bs)) :
    offered? k as = offered? k bs := by
  cases ha : offered? k as with
  | none =>
      rw [offered?_eq_none_iff] at ha
      refine (offered?_eq_none_iff.2 fun b hb t ht => ?_).symm
      exact ha b ((hsame b ⟨t, ht.1⟩).2 hb) t ht
  | some t =>
      obtain ⟨a, hmem, hoffers, hleast⟩ := least_of_offered? has ha
      cases hb : offered? k bs with
      | none =>
          rw [offered?_eq_none_iff] at hb
          exact absurd hoffers (hb a ((hsame a ⟨t, hoffers.1⟩).1 hmem) t)
      | some u =>
          -- each of the two files has the least name in the list of the other
          obtain ⟨b, hmem', hoffers', hleast'⟩ := least_of_offered? hbs hb
          have hb_as := (hsame b ⟨u, hoffers'.1⟩).2 hmem'
          have ha_bs := (hsame a ⟨t, hoffers.1⟩).1 hmem
          have hname : a.name = b.name :=
            le_antisymm (hleast b hb_as u hoffers') (hleast' a ha_bs t hoffers)
          obtain rfl := List.inj_on_of_nodup_map hnames hmem hb_as hname
          rw [← Except.ok.inj (hoffers.1.symm.trans hoffers'.1)]

/-- **Where the templates of an opened library come from, and what is said about the files.**  The
files that may describe a template are read in the order of their names, whatever the order in which
the directory lists them, and each holds what it held before unless it is a log file.  Of those that
offer a template for a key the one with the least name provides it, and the built-in one stands
where there is none; so other files change nothing.  Each file that was read is told of once, and
one template is loaded for each key of a custom one. -/
theorem opened_from_least {o : Options} {s : Settings} {l : Library} {w w' : World}
    (h : (openWith o s).run.run w = (.ok l, w')) (hdistinct : w.files.Distinct) :
    (∀ folder location names, folder? o.directory = some folder →
      w.files.locate folder = .ok (.taken location .directory) →
      names.Perm (w.files.namesIn location) →
      (openingAttempts o.directory w).map Attempt.name =
        (Files.Tree.sortNames names).filter fun name => isEligible w.files (folder.child name)) ∧
    (∀ folder, folder? o.directory = some folder → ∀ a ∈ openingAttempts o.directory w,
      ¬ w.LogsTo (folder.child a.name) →
      a.read = templateOfFile w.files (folder.child a.name)) ∧
    (∀ k, (∃ a ∈ openingAttempts o.directory w, ∃ t, a.Offers k t ∧
        l.catalogue.find? k = some t ∧
        ∀ b ∈ openingAttempts o.directory w, ∀ u, b.Offers k u → a.name ≤ b.name) ∨
      (∀ a ∈ openingAttempts o.directory w, ∀ t, ¬ a.Offers k t) ∧
        l.catalogue.find? k = some (Builtin.template k.framework k.style)) ∧
    (∀ (o₂ : Options) (s₂ : Settings) (l₂ : Library) (w₂ w₂' : World),
      (openWith o₂ s₂).run.run w₂ = (.ok l₂, w₂') →
      (∀ a : Attempt, (∃ t, a.read = .ok t) →
        (a ∈ openingAttempts o.directory w ↔ a ∈ openingAttempts o₂.directory w₂)) →
      ∀ k, l₂.catalogue.find? k = l.catalogue.find? k) ∧
    w'.said "template_manager" = w.said "template_manager" ++ openingEntries o.directory w ∧
    (outcomes [] (openingAttempts o.directory w)).filterMap (fun o => o.2.loadedKey?) = l.custom ∧
    l.custom.Nodup ∧
    ∀ k, k ∈ l.custom ↔ ∃ a ∈ openingAttempts o.directory w, ∃ t, a.Offers k t := by
  have hfind := find?_opened h
  have hsorted := pairwise_openingAttempts o.directory w
  obtain ⟨⟨framework, style, hl⟩, hsaid⟩ := opened_eq h
  have hcustom := custom_libraryAfter (fresh o.directory framework style)
    (openingAttempts o.directory w)
  refine ⟨fun folder location names hfolder hlocate hnames => ?_,
    fun folder hfolder a ha hlog => ?_, fun k => ?_, fun o₂ s₂ l₂ w₂ w₂' h₂ hsame k => ?_, hsaid,
    ?_, ?_, fun k => ?_⟩
  · exact map_name_openingAttempts hdistinct hfolder (listable_of_opened h hfolder hlocate) hnames
  · exact read_openingAttempts hfolder ha hlog
  · cases hoffered : offered? k (openingAttempts o.directory w) with
    | none =>
        refine Or.inr ⟨offered?_eq_none_iff.1 hoffered, ?_⟩
        rw [hfind, hoffered]
        rfl
    | some t =>
        obtain ⟨a, ha, hoffers, hleast⟩ := least_of_offered? hsorted hoffered
        refine Or.inl ⟨a, ha, t, hoffers, ?_, hleast⟩
        rw [hfind, hoffered]
        rfl
  · rw [hfind, find?_opened h₂, offered?_congr hsorted (pairwise_openingAttempts _ _)
      (nodup_openingAttempts _ hdistinct) hsame]
  · rw [hl]
    exact hcustom.symm
  · rw [hl]
    exact nodup_custom_libraryAfter List.nodup_nil _
  · rw [hl]
    have hmem := mem_custom_libraryAfter (fresh o.directory framework style)
      (openingAttempts o.directory w) k
    exact hmem.trans (or_iff_right List.not_mem_nil)

/-! ### A directory with one file -/

/-- A directory with nothing but a file of some text. -/
def holding (text : String) : World :=
  { World.start with
    files :=
      { entries :=
          [(["work", "templates", "a.yaml"], .file text.toUTF8), (["work", "templates"], .directory),
            (["work"], .directory)]
        here := ["work"] } }

theorem not_denies_holding (text : String) (use : Files.Use) (location : Files.Location) :
    ¬ (holding text).files.Denies use location := List.not_mem_nil

theorem isAt_holding (text : String) :
    (holding text).files.IsAt (.ofString "templates") ["work", "templates"] :=
  locate_eq_ok.2 ⟨⟨by decide, by decide, fun _ => not_denies_holding text _ _⟩, walk_eq_ok.1 rfl⟩

theorem listable_holding (text : String) :
    (holding text).files.Listable (.ofString "templates") ["work", "templates"] :=
  ⟨isAt_holding text, not_denies_holding text _ _⟩

theorem namesIn_holding (text : String) :
    (holding text).files.namesIn ["work", "templates"] = ["a.yaml"] := rfl

theorem locate_holding (text : String) :
    (holding text).files.locate ((Files.Path.ofString "templates").child "a.yaml") =
      .ok (.taken ["work", "templates", "a.yaml"] (.file text.toUTF8)) := by
  refine locate_eq_ok.2 ⟨⟨by decide, by decide, fun _ => not_denies_holding text _ _⟩, ?_⟩
  rw [← walk_eq_ok, (isAt_holding text).walk_child (by decide)]
  rfl

theorem isEligible_holding (text : String) :
    isEligible (holding text).files ((Files.Path.ofString "templates").child "a.yaml") = true := by
  have hsuffix :
      fileEndings.contains ((Files.Path.ofString "templates").child "a.yaml").suffix = true := by
    decide
  rw [isEligible, inspect, locate_holding]
  exact hsuffix

/-- What is read from the file. -/
theorem templateOfFile_holding (text : String) :
    templateOfFile (holding text).files ((Files.Path.ofString "templates").child "a.yaml") =
      templateOf text ((Files.Path.ofString "templates").child "a.yaml").text :=
  templateOfFile_of_locate (locate_holding text) fun _ _ _ => not_denies_holding text _ _

/-- The template that a file of the user describes. -/
def userTemplate : Template :=
  newTemplate ⟨.catch2, .autoMain⟩ shortTemplate "" "" "templates/a.yaml"

/-- A directory with nothing but that file. -/
def userStart : World := holding (Document.write (fileEntries userTemplate))

theorem isAt_userStart :
    userStart.files.IsAt (.ofString "templates") ["work", "templates"] := isAt_holding _

theorem listable_userStart :
    userStart.files.Listable (.ofString "templates") ["work", "templates"] := listable_holding _

theorem locate_userFile :
    userStart.files.locate ((Files.Path.ofString "templates").child "a.yaml") =
      .ok (.taken ["work", "templates", "a.yaml"]
        (.file (Document.write (fileEntries userTemplate)).toUTF8)) := locate_holding _

theorem isEligible_userFile :
    isEligible userStart.files ((Files.Path.ofString "templates").child "a.yaml") = true :=
  isEligible_holding _

theorem templateOfFile_userFile :
    templateOfFile userStart.files ((Files.Path.ofString "templates").child "a.yaml") =
      .ok userTemplate := by
  have hsource : ((Files.Path.ofString "templates").child "a.yaml").text = userTemplate.source := by
    decide +kernel
  rw [userStart, templateOfFile_holding, hsource]
  exact (templateOf_write_iff rfl ⟨rfl, rfl⟩ (by decide +kernel)).2 (by decide +kernel)

theorem namesIn_userStart : userStart.files.namesIn ["work", "templates"] = ["a.yaml"] :=
  namesIn_holding _

/-- A library with that directory can be opened. -/
theorem exists_opened_userStart :
    ∃ l w, (openWith ⟨some "templates", .missing, .missing⟩ .standard).run.run userStart =
      (.ok l, w) := by
  refine exists_opened .standard (fun h => absurd h (by decide)) (fun h => absurd h (by decide))
    fun folder hfolder => Or.inl ⟨["work", "templates"], ?_, fun name _ _ hlog => ?_,
      fun name hname => ?_⟩
  · obtain rfl : Files.Path.ofString "templates" = folder := Option.some.inj hfolder
    exact listable_userStart
  · obtain ⟨location, hlocation, -⟩ := hlog
    exact absurd hlocation List.not_mem_nil
  · obtain rfl : Files.Path.ofString "templates" = folder := Option.some.inj hfolder
    rw [namesIn_userStart, List.mem_singleton] at hname
    subst hname
    refine ⟨⟨some (.file (Document.write (fileEntries userTemplate)).toUTF8), ?_⟩, fun _ e he => ?_⟩
    · rw [inspect, locate_userFile]
    · rw [templateOfFile_userFile] at he
      exact absurd he (by simp)

theorem opened_from_least_userStart :
    ∃ l w, (openWith ⟨some "templates", .missing, .missing⟩ .standard).run.run userStart =
        (.ok l, w) ∧ userStart.files.Distinct ∧
      l.catalogue.find? ⟨.catch2, .autoMain⟩ = some userTemplate := by
  obtain ⟨l, w, hopen⟩ := exists_opened_userStart
  have hdistinct : userStart.files.Distinct := by
    rw [Distinct]
    decide +kernel
  obtain ⟨hnames, hread, hfind, -⟩ := opened_from_least hopen hdistinct
  have hnames := hnames _ _ _ rfl isAt_userStart (.refl _)
  rw [namesIn_userStart, sortNames, List.mergeSort_singleton, List.filter_cons,
    if_pos isEligible_userFile, List.filter_nil, List.map_eq_singleton_iff] at hnames
  obtain ⟨a, hattempts, hname⟩ := hnames
  have hlog : ¬ userStart.LogsTo ((Files.Path.ofString "templates").child a.name) := by
    rintro ⟨location, hlocation, -⟩
    exact absurd hlocation List.not_mem_nil
  have hread := hread _ rfl a (by simp [hattempts]) hlog
  rw [hname, templateOfFile_userFile] at hread
  refine ⟨l, w, hopen, hdistinct, ?_⟩
  rcases hfind ⟨.catch2, .autoMain⟩ with ⟨b, hb, t, hoffers, hserved, -⟩ | ⟨hnone, -⟩
  · rw [hattempts, List.mem_singleton] at hb
    rw [hb, Attempt.Offers, hread] at hoffers
    rw [hserved, ← Except.ok.inj hoffers.1]
  · exact absurd ⟨hread, rfl⟩ (hnone a (by simp [hattempts]) userTemplate)

end EntryTemplates.Library
