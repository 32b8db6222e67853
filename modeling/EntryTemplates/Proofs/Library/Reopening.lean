/-
**What is served when a library is opened again.**

A template that was created is served again from its file, unless the directory holds another file
for the same key whose name comes first.

Main definitions:

* `EntryTemplates.Library.Provides` — a file that describes a template for a key.

Main results:

* `EntryTemplates.Library.find?_eq_some_iff` — when the template that a file keeps is served;
* `EntryTemplates.Library.exists_reopened` — a library can be opened again after creations;
* `EntryTemplates.Library.reopened_serves` — **which of the created templates are served again**;
* `EntryTemplates.Library.reopened_serves_another` — **a file whose name comes first is served
  instead**.
-/

import EntryTemplates.Proofs.Library.Choice
import EntryTemplates.Proofs.Library.Creations

set_option relaxedAutoImplicit false
set_option autoImplicit false

namespace EntryTemplates.Library

open Files.Tree

/-! ### Which template is served -/

/-- A file of a directory describes a template for a key. -/
def Provides (t : Files.Tree) (folder : Files.Path) (location : Files.Location) (name : String)
    (k : Key) : Prop :=
  ∃ u, Describes t folder location name u ∧ u.key = k

theorem apart_of {w : World} {folder : Files.Path} {location : Files.Location}
    (hapart : w.LogsApart location) (hisAt : w.files.IsAt folder location)
    (hnames : ∀ name ∈ w.files.namesIn location, Files.IsName name) : Apart w folder location :=
  fun name hname helig => not_logsTo hapart hisAt (hnames name hname) helig

/-- **A template that is kept in its file is served exactly if no file before it provides one for
the same key.** -/
theorem find?_eq_some_iff {o : Options} {s : Settings} {l : Library} {w w' : World}
    (h : (openWith o s).run.run w = (.ok l, w')) {folder : Files.Path}
    (hfolder : folder? o.directory = some folder) {location : Files.Location}
    (hisAt : w.files.IsAt folder location) (hapart : Apart w folder location)
    (hnames : ∀ name ∈ w.files.namesIn location, Files.IsName name) {k : Key} {u : Template}
    (hkey : u.key = k) (hkept : Describes w.files folder location k.fileName u) :
    l.catalogue.find? k = some u ↔
      ∀ name, Provides w.files folder location name k → k.fileName ≤ name := by
  have hlistable := listable_of_opened h hfolder hisAt
  -- the files that are read are those that provide something, as no log file is among them
  have hread : ∀ a ∈ openingAttempts o.directory w,
      (a.name ∈ w.files.namesIn location ∧ isEligible w.files (folder.child a.name) = true) ∧
        a.read = templateOfFile w.files (folder.child a.name) := fun a ha => by
    have hmem := (mem_map_name_openingAttempts hfolder hlistable).1 (List.mem_map_of_mem ha)
    exact ⟨hmem, read_openingAttempts hfolder ha (hapart a.name hmem.1 hmem.2)⟩
  have hexists : ∀ name, Provides w.files folder location name k →
      ∃ a ∈ openingAttempts o.directory w, a.name = name ∧ ∃ v, a.Offers k v := by
    rintro name ⟨v, ⟨hmem, helig, hv⟩, hvkey⟩
    obtain ⟨a, ha, rfl⟩ :=
      List.mem_map.1 ((mem_map_name_openingAttempts hfolder hlistable).2 ⟨hmem, helig⟩)
    exact ⟨a, ha, rfl, v, (hread a ha).2.trans hv, hvkey⟩
  have hown : Provides w.files folder location k.fileName k := ⟨u, hkept, hkey⟩
  obtain ⟨a, ha, v, hoffers, hleast, hfind⟩ : ∃ a ∈ openingAttempts o.directory w, ∃ v,
      a.Offers k v ∧ (∀ b ∈ openingAttempts o.directory w, ∀ v', b.Offers k v' → a.name ≤ b.name) ∧
        l.catalogue.find? k = some v := by
    cases hoffered : offered? k (openingAttempts o.directory w) with
    | none =>
        obtain ⟨b, hb, -, v, hv⟩ := hexists _ hown
        exact absurd hv (offered?_eq_none_iff.1 hoffered b hb v)
    | some v =>
        obtain ⟨a, ha, hoffers, hleast⟩ :=
          least_of_offered? (pairwise_openingAttempts o.directory w) hoffered
        refine ⟨a, ha, v, hoffers, hleast, ?_⟩
        rw [find?_opened h, hoffered]
        rfl
  have hfirst : ∀ name, Provides w.files folder location name k → a.name ≤ name := by
    intro name hprovides
    obtain ⟨b, hb, rfl, v', hv'⟩ := hexists name hprovides
    exact hleast b hb v' hv'
  have haread := (hread a ha).2.symm.trans hoffers.1
  rw [hfind, Option.some.injEq]
  constructor
  · rintro rfl
    -- the templates name their files as their sources
    have hsource := (templateOfFile_ok haread).2.symm.trans (templateOfFile_ok hkept.read).2
    have hname := Files.Path.text_child_inj (hnames _ (hread a ha).1.1) (isName_fileName k) hsource
    rw [← hname]
    exact hfirst
  · intro hall
    have hname : a.name = k.fileName := le_antisymm (hfirst _ hown)
      (hall _ ⟨v, ⟨(hread a ha).1.1, (hread a ha).1.2, haread⟩, hoffers.2⟩)
    rw [hname, hkept.read] at haread
    exact (Except.ok.inj haread).symm

theorem directory_opened {o : Options} {s : Settings} {l : Library} {w w' : World}
    (h : (openWith o s).run.run w = (.ok l, w')) : l.directory = o.directory := by
  obtain ⟨⟨framework, style, rfl⟩, -⟩ := opened_eq h
  exact directory_libraryAfter _ _

/-- The directory of a library that was opened, after that. -/
theorem after_opened {o : Options} {s : Settings} {l : Library} {w w' : World}
    (h : (openWith o s).run.run w = (.ok l, w')) (hproper : w'.files.Proper) {folder : Files.Path}
    (hfolder : folder? o.directory = some folder) :
    (∃ location, w'.files.Listable folder location ∧ (w'.LogsApart location →
      ∀ name ∈ w'.files.namesIn location, Addable w'.files (folder.child name))) ∨
    w'.files.isDirectory folder = .ok false := by
  have hnoted := noted_openWith h
  rcases of_opened h hfolder with ⟨location, hlistable, haddable⟩ | hmissing
  · refine Or.inl ⟨location, listable_of_noted hnoted hlistable, fun hapart name hname => ?_⟩
    have hisName : ∀ other ∈ w.files.namesIn location, Files.IsName other := fun other hother =>
      hproper.isName location other (mem_namesIn.1 (hnoted.files.mem_namesIn.2 hother))
    have happly : Apart w folder location :=
      apart_of (fun other hother => hapart other (hnoted.logs ▸ hother)) hlistable.isAt hisName
    have hold := hnoted.files.mem_namesIn.1 hname
    exact (addable_of_noted hnoted (happly name hold)).2 (haddable happly name hold)
  · rw [isDirectory_of_noted hnoted]
    exact Or.inr hmissing

/-- A library can be opened again after creations, and what they left is in its directory. -/
theorem exists_reopened {o o' : Options} {s : Settings} (s' : Settings) {l₀ l : Library}
    {w₀ w₁ w₂ : World} {ks : List Key} (hopen : (openWith o s).run.run w₀ = (.ok l₀, w₁))
    (hcreated : Creations l₀ w₁ ks l w₂) (hdirectory : o'.directory = o.directory)
    (hframework : IsNameOrLeft Framework o'.framework) (hstyle : IsNameOrLeft Style o'.style)
    (hproper : w₀.files.Proper)
    (hfolder : ∀ folder, folder? o.directory = some folder →
      (∃ location, w₀.files.IsAt folder location) ∨ ".." ∉ folder.parts)
    (hapart : ∀ folder location, folder? o.directory = some folder →
      w₂.files.IsAt folder location → w₂.LogsApart location) :
    ∃ l' w₃, (openWith o' s').run.run w₂ = (.ok l', w₃) ∧
      (ks = [] ∨ ∃ folder location, folder? o.directory = some folder ∧
        Kept w₁ folder location ks l w₂ ∧ Apart w₂ folder location ∧
        ∀ name ∈ w₂.files.namesIn location, Files.IsName name) := by
  have hnoted := noted_openWith hopen
  have hbase := hnoted.files.proper hproper
  have hl₀ := directory_opened hopen
  have hkept := hcreated.kept hbase
    (fun folder hf => (hfolder folder (hl₀ ▸ hf)).imp_left fun ⟨location, hisAt⟩ =>
      ⟨location, hnoted.files.locate_directory hisAt⟩)
    (fun folder location hf => hapart folder location (hl₀ ▸ hf))
  rcases hkept with ⟨hnone, -, rfl⟩ | ⟨folder, location, hf, hkept⟩
  · obtain ⟨l', w₃, hagain⟩ := exists_opened s' hframework hstyle fun folder hf => by
      rw [hdirectory] at hf
      refine (after_opened hopen hbase hf).imp_left fun ⟨location, hlistable, haddable⟩ => ?_
      have happly := hapart folder location hf hlistable.isAt
      exact ⟨location, hlistable, apart_of happly hlistable.isAt fun name hname =>
        hbase.isName location name (mem_namesIn.1 hname), haddable happly⟩
    exact ⟨l', w₃, hagain, Or.inl hnone⟩
  · rw [hl₀] at hf
    have hisAt := hkept.directory.isAt
    have happly := hapart folder location hf hisAt
    have hisName : ∀ name ∈ w₂.files.namesIn location, Files.IsName name := fun name hname =>
      hkept.directory.isName_of_mem hbase (isName_of_mem_map ks) hname
    have hold (hisAt₁ : w₁.files.IsAt folder location) :
        w₁.files.Listable folder location ∧ (w₁.LogsApart location →
          ∀ name ∈ w₁.files.namesIn location, Addable w₁.files (folder.child name)) := by
      rcases after_opened hopen hbase hf with ⟨other, hother, haddable⟩ | hmissing
      · obtain rfl := hother.isAt.unique hisAt₁
        exact ⟨hother, haddable⟩
      · rw [isDirectory_of_isAt hisAt₁] at hmissing
        exact absurd hmissing (by simp)
    have hlistable := hkept.directory.listable fun hisAt₁ => (hold hisAt₁).1.allowed
    have haddable := hkept.addable hbase happly fun hisAt₁ =>
      (hold hisAt₁).2 fun name hname => happly name (hkept.logs ▸ hname)
    obtain ⟨l', w₃, hagain⟩ := exists_opened s' hframework hstyle fun folder' hf' => by
      obtain rfl := Option.some.inj (hf.symm.trans (hdirectory ▸ hf'))
      exact Or.inl ⟨location, hlistable, apart_of happly hisAt hisName, haddable⟩
    exact ⟨l', w₃, hagain,
      Or.inr ⟨folder, location, hf, hkept, apart_of happly hisAt hisName, hisName⟩⟩

/-- **Which of the created templates are served when the library is opened again**: those for which
the directory holds no other file whose name comes first. -/
theorem reopened_serves {o o' : Options} {s s' : Settings} {l₀ l : Library} {w₀ w₁ w₂ : World}
    {ks : List Key} (hopen : (openWith o s).run.run w₀ = (.ok l₀, w₁))
    (hcreated : Creations l₀ w₁ ks l w₂) (hdirectory : o'.directory = o.directory)
    (hframework : IsNameOrLeft Framework o'.framework) (hstyle : IsNameOrLeft Style o'.style)
    (hproper : w₀.files.Proper)
    (hfolder : ∀ folder, folder? o.directory = some folder →
      (∃ location, w₀.files.IsAt folder location) ∨ ".." ∉ folder.parts)
    (hapart : ∀ folder location, folder? o.directory = some folder →
      w₂.files.IsAt folder location → w₂.LogsApart location) :
    ∃ l' w₃, (openWith o' s').run.run w₂ = (.ok l', w₃) ∧
      ∀ k ∈ ks, ∃ u, l.catalogue.find? k = some u ∧
        (l'.catalogue.find? k = some u ↔
          ∀ folder location name, folder? o.directory = some folder →
            w₂.files.IsAt folder location → Provides w₂.files folder location name k →
            k.fileName ≤ name) := by
  obtain ⟨l', w₃, hagain, hleft⟩ :=
    exists_reopened s' hopen hcreated hdirectory hframework hstyle hproper hfolder hapart
  refine ⟨l', w₃, hagain, fun k hk => ?_⟩
  rcases hleft with rfl | ⟨folder, location, hf, hkept, happly, hisName⟩
  · exact absurd hk List.not_mem_nil
  · have hisAt := hkept.directory.isAt
    obtain ⟨u, hfind, hin⟩ := hkept.own k hk
    have hiff := find?_eq_some_iff hagain (hdirectory ▸ hf) hisAt happly hisName
      (Catalogue.key_of_find? hfind) hin
    refine ⟨u, hfind, hiff.trans ⟨fun h folder' location' name hf' hisAt' => ?_, fun h name => ?_⟩⟩
    · obtain rfl := Option.some.inj (hf.symm.trans hf')
      obtain rfl := hisAt.unique hisAt'
      exact h name
    · exact h folder location name hf hisAt

/-! ### A file whose name comes first -/

theorem describes_userFile :
    Describes userStart.files (.ofString "templates") ["work", "templates"] "a.yaml"
      userTemplate :=
  ⟨by decide, isEligible_userFile, templateOfFile_userFile⟩

theorem proper_userStart : userStart.files.Proper := by
  have hcases : ∀ location name, (userStart.files.at? (location ++ [name])).isSome = true →
      (location, name) ∈
        [(["work", "templates"], "a.yaml"), (["work"], "templates"), ([], "work")] := by
    intro location name h
    rw [isSome_at? (by simp)] at h
    have hmem : location ++ [name] ∈
        [["work", "templates"] ++ ["a.yaml"], ["work"] ++ ["templates"], [] ++ ["work"]] := h
    simp only [List.mem_cons, List.not_mem_nil, or_false, List.append_singleton_inj] at hmem
    simpa using hmem
  have hall : ∀ place ∈
      [(["work", "templates"], "a.yaml"), (["work"], "templates"), ([], "work")],
      Files.IsName place.2 ∧ userStart.files.at? place.1 = some .directory := by
    decide
  exact ⟨fun location name h => (hall _ (hcases location name h)).1,
    fun location name h => (hall _ (hcases location name h)).2⟩

/-- A template can be created in spite of the user's file, which stays. -/
theorem exists_created_userStart :
    ∃ (l₀ l : Library) (w₁ w₂ : World),
      (openWith ⟨some "templates", .missing, .missing⟩ .standard).run.run userStart =
        (.ok l₀, w₁) ∧
      Creations l₀ w₁ [⟨.catch2, .autoMain⟩] l w₂ ∧ w₂.logLocations = [] ∧
      w₂.files.IsAt (.ofString "templates") ["work", "templates"] ∧
      Describes w₂.files (.ofString "templates") ["work", "templates"] "a.yaml" userTemplate := by
  have hlogs : userStart.logLocations = [] := rfl
  obtain ⟨l₀, w₁, hopen⟩ := exists_opened_userStart
  have hnoted := noted_openWith hopen
  have hisAt : w₁.files.IsAt (.ofString "templates") ["work", "templates"] :=
    hnoted.files.locate_directory isAt_userStart
  have hfree : w₁.files.at? (["work", "templates"] ++ [(Key.mk .catch2 .autoMain).fileName]) =
      none := by
    rw [← Option.not_isSome_iff_eq_none, hnoted.files.isSome_at?]
    decide +kernel
  have hallowed (use : Files.Use) (location : Files.Location) :
      ¬ w₁.files.Denies use location :=
    mt (denies_congr hnoted.files.denied).1 (not_denies_holding _ use location)
  have hwrite := hisAt.write_free (isName_fileName ⟨.catch2, .autoMain⟩)
    ⟨by decide +kernel, by decide +kernel, fun _ => hallowed _ _⟩ (hallowed _ _) (hallowed _ _)
    (by decide +kernel) hfree
  have hcreated : (create (.member (.framework .catch2)) (.member (.style .autoMain))
      shortTemplate "later" "").run.run ⟨l₀, w₁⟩ = (.ok _, ⟨_, _⟩) := create_eq_ok.2 ⟨"templates",
    ⟨.catch2, .autoMain⟩, newTemplate _ shortTemplate "later" "" _, w₁.files, _,
    ⟨directory_opened hopen, by decide⟩, ⟨rfl, rfl⟩, rfl, rfl, by decide +kernel,
    makeDirectories_of_isAt hisAt, hwrite _, rfl, rfl⟩
  refine ⟨l₀, _, w₁, _, hopen, Creations.more ⟨.catch2, .autoMain⟩ ⟨.member (.framework .catch2),
    .member (.style .autoMain), shortTemplate, "later", ""⟩ .none ⟨rfl, rfl⟩ (by decide +kernel)
    hcreated ?_, ?_, (isAt_create hcreated ?_ hisAt).1, ?_⟩
  · exact (noted_created _ _ _ _).files.mayRead_iff.2 fun _ _ _ => hallowed _ _
  · rw [(noted_created _ _ _ _).logs]
    exact hnoted.logs.trans hlogs
  · rw [directory_opened hopen]
    rfl
  · have hisName : Files.IsName "a.yaml" := by decide +kernel
    have hafter := describes_userFile.noted hisName isAt_userStart
      (fun name hname => by simp [hlogs] at hname) hnoted
    obtain ⟨hisAt', -, -⟩ := hisAt.write_child (isName_fileName ⟨.catch2, .autoMain⟩) (hwrite _)
    refine Describes.noted (hafter.write hisName hisAt (isName_fileName ⟨.catch2, .autoMain⟩)
      (by decide +kernel) (hwrite _)) hisName hisAt' (fun name hname => ?_) (noted_created _ _ _ _)
    have hnone : w₁.logLocations = [] := hnoted.logs.trans hlogs
    exact absurd (hnone ▸ hname) List.not_mem_nil

theorem reopened_serves_userStart :
    ∃ (l₀ l l' : Library) (w₁ w₂ w₃ : World),
      (openWith ⟨some "templates", .missing, .missing⟩ .standard).run.run userStart =
        (.ok l₀, w₁) ∧
      Creations l₀ w₁ [⟨.catch2, .autoMain⟩] l w₂ ∧ userStart.files.Proper ∧
      (openWith ⟨some "templates", .missing, .missing⟩ .standard).run.run w₂ = (.ok l', w₃) := by
  obtain ⟨l₀, l, w₁, w₂, hopen, hcreated, hlogs, -, -⟩ := exists_created_userStart
  obtain ⟨l', w₃, hagain, -⟩ := reopened_serves hopen hcreated rfl (fun h => absurd h (by decide))
    (fun h => absurd h (by decide)) proper_userStart
    (fun folder hf => by
      obtain rfl : Files.Path.ofString "templates" = folder := Option.some.inj hf
      exact Or.inl ⟨_, isAt_userStart⟩)
    (fun folder location _ _ name hname => by simp [hlogs] at hname)
  exact ⟨l₀, l, l', w₁, w₂, w₃, hopen, hcreated, proper_userStart, hagain⟩

/-- **A file whose name comes first is served instead** of the template that was created. -/
theorem reopened_serves_another :
    ∃ (l₀ l l' : Library) (w₁ w₂ w₃ : World) (u : Template),
      (openWith ⟨some "templates", .missing, .missing⟩ .standard).run.run userStart =
        (.ok l₀, w₁) ∧
      Creations l₀ w₁ [⟨.catch2, .autoMain⟩] l w₂ ∧
      (openWith ⟨some "templates", .missing, .missing⟩ .standard).run.run w₂ = (.ok l', w₃) ∧
      l.catalogue.find? ⟨.catch2, .autoMain⟩ = some u ∧
      l'.catalogue.find? ⟨.catch2, .autoMain⟩ ≠ some u := by
  obtain ⟨l₀, l, w₁, w₂, hopen, hcreated, hlogs, hisAt, hfile⟩ := exists_created_userStart
  have hfolder : folder? (some "templates") = some (.ofString "templates") := rfl
  obtain ⟨l', w₃, hagain, hleft⟩ := exists_reopened .standard hopen hcreated rfl
    (fun h => absurd h (by decide)) (fun h => absurd h (by decide)) proper_userStart
    (fun folder hf => by
      obtain rfl := Option.some.inj (hfolder.symm.trans hf)
      exact Or.inl ⟨_, isAt_userStart⟩)
    (fun folder location _ _ name hname => by simp [hlogs] at hname)
  obtain ⟨folder, location, hf, hkept, happly, hisName⟩ := hleft.resolve_left (by simp)
  obtain rfl := Option.some.inj (hfolder.symm.trans hf)
  obtain ⟨u, hfind, hdescribes⟩ := hkept.own ⟨.catch2, .autoMain⟩ (by simp)
  refine ⟨l₀, l, l', w₁, w₂, w₃, u, hopen, hcreated, hagain, hfind, fun hserved => ?_⟩
  have hfirst := (find?_eq_some_iff hagain hfolder hkept.directory.isAt happly hisName
    (Catalogue.key_of_find? hfind) hdescribes).1 hserved
  obtain rfl := hisAt.unique hkept.directory.isAt
  exact absurd (hfirst "a.yaml" ⟨userTemplate, hfile, rfl⟩) (by decide +kernel)

end EntryTemplates.Library
