/-
**Templates created one after another.**

Creations write to the files for their keys and leave the other names in the directory alone.  So
the last template that was created for a key is kept in its file.

Main definitions:

* `EntryTemplates.World.LogsApart` — no log file stands in a directory as a template file;
* `EntryTemplates.Library.Creations` — templates created one after another;
* `EntryTemplates.Library.Describes` — a file that describes a template;
* `EntryTemplates.Library.Kept` — the invariant.

Main results:

* `EntryTemplates.Library.Kept.create` — one creation preserves the invariant;
* `EntryTemplates.Library.Creations.kept` — **what creations leave in the directory**;
* `EntryTemplates.Library.Kept.addable` — they put nothing harmful into it.
-/

import EntryTemplates.Proofs.Files.Directories
import EntryTemplates.Proofs.Library.Invariant
import EntryTemplates.Proofs.Library.RoundTrip

set_option relaxedAutoImplicit false
set_option autoImplicit false

namespace EntryTemplates

/-! ### Log files -/

/-- No log file stands in a directory under the name of a template file. -/
def World.LogsApart (w : World) (location : Files.Location) : Prop :=
  ∀ name, location ++ [name] ∈ w.logLocations →
    (Files.Path.mk "" [name]).suffix ∉ Library.fileEndings

namespace Library

open Files.Tree

theorem suffix_child (folder : Files.Path) {name : String} (h : Files.IsName name) :
    (folder.child name).suffix = (Files.Path.mk "" [name]).suffix := by
  rw [Files.Path.child_of_isName _ h, Files.Path.suffix, Files.Path.suffix, Files.Path.name,
    Files.Path.name]
  simp

section LogsApart

variable {w : World} {t : Files.Tree} {folder : Files.Path} {location : Files.Location}
  {name : String}

/-- A template file of the directory is none of the log files. -/
theorem not_mem_logLocations (hapart : w.LogsApart location) (hfolder : t.IsAt folder location)
    (hname : Files.IsName name) (helig : isEligible t (folder.child name) = true)
    {other : Files.Location} {bytes : ByteArray}
    (hplace : t.locate (folder.child name) = .ok (.taken other (.file bytes))) :
    other ∉ w.logLocations := by
  obtain ⟨rfl, -⟩ := hfolder.location_of_file hname hplace
  intro hlog
  refine hapart name hlog ?_
  rw [← suffix_child folder hname]
  exact suffix_of_isEligible helig

theorem not_logsTo (hapart : w.LogsApart location) (hfolder : w.files.IsAt folder location)
    (hname : Files.IsName name) (helig : isEligible w.files (folder.child name) = true) :
    ¬ w.LogsTo (folder.child name) := by
  rintro ⟨other, hlog, bytes, hplace⟩
  exact not_mem_logLocations hapart hfolder hname helig hplace hlog

end LogsApart

/-! ### Templates created one after another -/

/-- Templates created one after another, with the keys they were created for, the last one first.
None of their texts is lost, and none was written to a file that must not be read. -/
inductive Creations (l₀ : Library) (w₀ : World) : List Key → Library → World → Prop where
  | none : Creations l₀ w₀ [] l₀ w₀
  | more {ks : List Key} {l l' : Library} {w w' : World} {p : Files.Path} (k : Key) (c : Call)
      (before : Creations l₀ w₀ ks l w)
      (named : c.framework.parse = .ok k.framework ∧ c.style.parse = .ok k.style)
      (kept : ¬ (Document.Lost c.content ∨ Document.Lost c.description ∨ Document.Lost c.author))
      (created : c.act.run.run ⟨l, w⟩ = (.ok p, ⟨l', w'⟩)) (readable : w'.files.MayRead p) :
      Creations l₀ w₀ (k :: ks) l' w'

theorem fileName_inj {k k' : Key} (h : k.fileName = k'.fileName) : k = k' := by
  obtain ⟨f, s⟩ := k
  obtain ⟨f', s'⟩ := k'
  revert h
  cases f <;> cases s <;> cases f' <;> cases s' <;> decide

/-- A file of a directory that may describe a template does describe one. -/
structure Describes (t : Files.Tree) (folder : Files.Path) (location : Files.Location)
    (name : String) (u : Template) : Prop where
  mem : name ∈ t.namesIn location
  eligible : isEligible t (folder.child name) = true
  read : templateOfFile t (folder.child name) = .ok u

section Describes

variable {t t' : Files.Tree} {folder : Files.Path} {location : Files.Location} {name : String}
  {u : Template}

/-- Another file may be written to. -/
theorem Describes.write (h : Describes t folder location name u) (hisName : Files.IsName name)
    (hisAt : t.IsAt folder location) {other : String} (hother : Files.IsName other)
    (hne : name ≠ other) {bytes : ByteArray}
    (hwrite : t.write (folder.child other) bytes = .ok t') :
    Describes t' folder location name u := by
  obtain ⟨hisAt', -, hrest⟩ := hisAt.write_child hother hwrite
  obtain ⟨hwritten, -⟩ := hisAt.eq_put_of_write hother hwrite
  have hat := hrest _ hne
  have hplace := hisAt.locate_child_congr hisAt' (by rw [hwritten, put_here])
    (by rw [hwritten, put_denied]) hisName hat
  have hsame : SamePlace [] (t.locate (folder.child name)) (t'.locate (folder.child name)) := by
    rw [hplace]
    exact .refl _ _
  refine ⟨?_, ?_, ?_⟩
  · rw [mem_namesIn, hat, ← mem_namesIn]
    exact h.mem
  · rw [isEligible_of_same hsame]
    exact h.eligible
  · rw [templateOfFile_of_same (by rw [hwritten, put_denied]) hsame fun _ _ _ => List.not_mem_nil]
    exact h.read

/-- Log files may change. -/
theorem Describes.noted {w w' : World} (h : Describes w.files folder location name u)
    (hisName : Files.IsName name) (hisAt : w.files.IsAt folder location)
    (hapart : w.LogsApart location) (hnoted : w.Noted w') :
    Describes w'.files folder location name u := by
  refine ⟨hnoted.files.mem_namesIn.2 h.mem, ?_, ?_⟩
  · rw [isEligible_of_noted hnoted]
    exact h.eligible
  · rw [templateOfFile_of_noted hnoted (not_logsTo hapart hisAt hisName h.eligible)]
    exact h.read

/-- **A template whose texts are not lost is described by the file that is written.** -/
theorem describes_written {k : Key} (hisAt : t.IsAt folder location)
    (hversion : u.version = "1.0.0")
    (hwhole : u.contentHalves = [] ∧ u.descriptionHalves = [])
    (hsource : u.source = (folder.child k.fileName).text) (hvalid : u.problems = [])
    (hkept : ¬ (Document.Lost u.content ∨ Document.Lost u.description ∨ Document.Lost u.author))
    (hwrite : t.write (folder.child k.fileName) (Document.write (fileEntries u)).toUTF8 = .ok t')
    (hmay : t'.MayRead (folder.child k.fileName)) : Describes t' folder location k.fileName u := by
  obtain ⟨-, hat, -⟩ := hisAt.write_child (isName_fileName k) hwrite
  obtain ⟨place, hplace⟩ := locate_write hwrite
  refine ⟨?_, ?_, ?_⟩
  · rw [mem_namesIn, hat]
    rfl
  · rw [isEligible, inspect, hplace]
    simp only [suffix_fileName]
    decide
  · rw [templateOfFile_written hwrite hmay, ← hsource]
    exact (templateOf_write_iff hversion hwhole hvalid).2 hkept

/-- A file that describes a template is not harmful. -/
theorem Describes.addable (h : Describes t folder location name u) :
    Addable t (folder.child name) := by
  refine ⟨?_, fun _ e he => ?_⟩
  · have helig := h.eligible
    rw [isEligible] at helig
    split at helig
    · rename_i bytes hinspect
      exact ⟨_, hinspect⟩
    · exact absurd helig (by simp)
  · rw [h.read] at he
    exact absurd he (by simp)

end Describes

/-- What creations leave: the directory has changed in the files of the created templates only, and
the library's templates for their keys are kept in them. -/
structure Kept (base : World) (folder : Files.Path) (location : Files.Location) (ks : List Key)
    (l : Library) (w : World) : Prop where
  logs : w.logLocations = base.logLocations
  directory : KeptBut base.files w.files base.logLocations folder location (ks.map Key.fileName)
  own : ∀ k ∈ ks, ∃ u, l.catalogue.find? k = some u ∧
    Describes w.files folder location k.fileName u

theorem isName_of_mem_map (ks : List Key) : ∀ name ∈ ks.map Key.fileName, Files.IsName name := by
  intro name hname
  obtain ⟨k, -, rfl⟩ := List.mem_map.1 hname
  exact isName_fileName k

/-- **One creation more**, once the directory is made. -/
theorem Kept.create {base w : World} {folder : Files.Path} {location : Files.Location}
    {ks : List Key} {l : Library} (h : Kept base folder location ks l w) (hbase : base.files.Proper)
    (hapart : w.LogsApart location) {k : Key} {u : Template} (hkey : u.key = k)
    (hversion : u.version = "1.0.0") (hwhole : u.contentHalves = [] ∧ u.descriptionHalves = [])
    (hsource : u.source = (folder.child k.fileName).text) (hvalid : u.problems = [])
    (hkept : ¬ (Document.Lost u.content ∨ Document.Lost u.description ∨ Document.Lost u.author))
    {written : Files.Tree}
    (hwrite : w.files.write (folder.child k.fileName) (Document.write (fileEntries u)).toUTF8 =
      .ok written) (hmay : written.MayRead (folder.child k.fileName)) :
    Kept base folder location (k :: ks) (l.adopt u)
      (created w written u (folder.child k.fileName)) := by
  have hnoted := noted_created w written u (folder.child k.fileName)
  obtain ⟨hisAt, -, -⟩ := h.directory.isAt.write_child (isName_fileName k) hwrite
  have hapart : World.LogsApart { w with files := written } location := hapart
  have hlogs : (created w written u (folder.child k.fileName)).logLocations = base.logLocations :=
    hnoted.logs.trans h.logs
  refine ⟨hlogs, ?_, fun k' hk' => ?_⟩
  · refine (h.directory.write hbase (isName_fileName k) hwrite).sameBut ?_
    rw [← h.logs]
    exact hnoted.files
  · -- the last creation wins in the library and in the file
    by_cases hsame : k' = k
    · subst hsame
      refine ⟨u, by rw [find?_adopt, if_pos hkey], ?_⟩
      have hwritten :=
        describes_written h.directory.isAt hversion hwhole hsource hvalid hkept hwrite hmay
      exact Describes.noted hwritten (isName_fileName k') hisAt hapart hnoted
    · obtain ⟨u', hfind, hold⟩ := h.own k' ((List.mem_cons.1 hk').resolve_left hsame)
      refine ⟨u', ?_, ?_⟩
      · rw [find?_adopt, if_neg fun hu => hsame (hu.symm.trans hkey)]
        exact hfind
      · have hne : k'.fileName ≠ k.fileName := fun hname => hsame (fileName_inj hname)
        exact Describes.noted
          (hold.write (isName_fileName k') h.directory.isAt (isName_fileName k) hne hwrite)
          (isName_fileName k') hisAt hapart hnoted

theorem folder?_of_ne {l : Library} {directory : String} (h : l.directory = some directory)
    (hne : directory ≠ "") : folder? l.directory = some (.ofString directory) := by
  rw [h]
  simp [folder?]

/-- A creation leaves the directory where it is. -/
theorem isAt_create {l l' : Library} {framework style : Argument}
    {content description author : String} {p : Files.Path} {w w' : World}
    (hcreate : (create framework style content description author).run.run ⟨l, w⟩ =
      (.ok p, ⟨l', w'⟩))
    {folder : Files.Path} (hfolder : folder? l.directory = some folder) {location : Files.Location}
    (h : w.files.IsAt folder location) :
    w'.files.IsAt folder location ∧ w'.logLocations = w.logLocations := by
  obtain ⟨directory, k, t, made, written, ⟨hdirectory, hne⟩, -, rfl, -, -, hmade, hwrite, -, rfl⟩ :=
    create_eq_ok.1 hcreate
  obtain rfl := Option.some.inj ((folder?_of_ne hdirectory hne).symm.trans hfolder)
  rw [makeDirectories_of_isAt h] at hmade
  obtain rfl := (Prod.mk.inj hmade).1
  have hnoted := noted_created w written t ((Files.Path.ofString directory).child k.fileName)
  obtain ⟨hisAt, -, -⟩ := IsAt.write_child h (isName_fileName k) hwrite
  exact ⟨hnoted.files.locate_directory hisAt, hnoted.logs⟩

theorem directory_create {l l' : Library} {framework style : Argument}
    {content description author : String} {p : Files.Path} {w w' : World}
    (hcreate : (create framework style content description author).run.run ⟨l, w⟩ =
      (.ok p, ⟨l', w'⟩)) : l'.directory = l.directory := by
  obtain ⟨-, -, -, -, -, -, -, -, -, -, -, -, rfl, -⟩ := create_eq_ok.1 hcreate
  rfl

theorem Creations.directory {l₀ l : Library} {base w : World} {ks : List Key}
    (h : Creations l₀ base ks l w) : l.directory = l₀.directory := by
  induction h with
  | none => rfl
  | more k c before named kept created readable ih => exact (directory_create created).trans ih

/-- **What creations leave in the directory**, if there were any. -/
theorem Creations.kept {l₀ l : Library} {base w : World} {ks : List Key}
    (h : Creations l₀ base ks l w) (hbase : base.files.Proper)
    (hfolder : ∀ folder, folder? l₀.directory = some folder →
      (∃ location, base.files.IsAt folder location) ∨ ".." ∉ folder.parts)
    (hapart : ∀ folder location, folder? l₀.directory = some folder →
      w.files.IsAt folder location → w.LogsApart location) :
    ks = [] ∧ l = l₀ ∧ w = base ∨
      ∃ folder location, folder? l₀.directory = some folder ∧
        Kept base folder location ks l w := by
  induction h with
  | none => exact Or.inl ⟨rfl, rfl, rfl⟩
  | @more ks l l' w w' p k c before named kept created readable ih =>
      have hbefore := ih fun folder location hf hisAt => by
        obtain ⟨hisAt', hlogs⟩ := isAt_create created (before.directory ▸ hf) hisAt
        intro name hname
        exact hapart folder location hf hisAt' name (hlogs ▸ hname)
      obtain ⟨directory, k', u, made, written, ⟨hdirectory, hne⟩, hparse, rfl, hu, hvalid, hmade,
        hwrite, rfl, rfl⟩ := create_eq_ok.1 created
      have hsource : u.source = ((Files.Path.ofString directory).child k'.fileName).text := by
        rw [hu]
        rfl
      obtain rfl : k' = k := Except.ok.inj
        ((Catalogue.resolve_eq_ok.2 hparse).symm.trans (Catalogue.resolve_eq_ok.2 named))
      have hf := before.directory ▸ folder?_of_ne hdirectory hne
      -- the directory is there once it was made, with what it held before
      obtain ⟨location, hkept⟩ : ∃ location,
          Kept base (.ofString directory) location ks l { w with files := made } := by
        rcases hbefore with ⟨rfl, rfl, rfl⟩ | ⟨folder, location, hf', hkept⟩
        · obtain ⟨location, hstart⟩ := KeptBut.start hbase (hfolder _ hf) hmade
          exact ⟨location, rfl, hstart, fun k hk => absurd hk List.not_mem_nil⟩
        · obtain rfl := Option.some.inj (hf.symm.trans hf')
          rw [makeDirectories_of_isAt hkept.directory.isAt] at hmade
          obtain rfl := (Prod.mk.inj hmade).1
          exact ⟨location, hkept⟩
      refine Or.inr ⟨_, location, hf, ?_⟩
      have hnoted := noted_created w written u
        ((Files.Path.ofString directory).child k'.fileName)
      obtain ⟨hisAt, -, -⟩ := hkept.directory.isAt.write_child (isName_fileName k') hwrite
      refine hkept.create hbase (fun name hname => ?_) (by rw [hu]; rfl) (by rw [hu]; rfl)
        (by rw [hu]; exact ⟨rfl, rfl⟩) hsource hvalid (by rw [hu]; exact kept) hwrite
        (hnoted.files.mayRead_iff.1 readable)
      refine hapart _ location hf (hnoted.files.locate_directory hisAt) name ?_
      rw [hnoted.logs]
      exact hname

/-- Creations put nothing harmful into the directory. -/
theorem Kept.addable {base w : World} {folder : Files.Path} {location : Files.Location}
    {ks : List Key} {l : Library} (h : Kept base folder location ks l w) (hbase : base.files.Proper)
    (hapart : w.LogsApart location)
    (haddable : base.files.IsAt folder location → ∀ name ∈ base.files.namesIn location,
      Addable base.files (folder.child name)) :
    ∀ name ∈ w.files.namesIn location, Addable w.files (folder.child name) := by
  intro name hname
  by_cases hmem : name ∈ ks.map Key.fileName
  · obtain ⟨k, hk, rfl⟩ := List.mem_map.1 hmem
    obtain ⟨u, -, hkept⟩ := h.own k hk
    exact hkept.addable
  · obtain ⟨hisAt, hold, hplace⟩ := h.directory.others name hmem hname
    have hisName := hbase.isName location name (mem_namesIn.1 hold)
    refine (addable_of_same h.directory.denied hplace fun helig other bytes hlocate => ?_).2
      (haddable hisAt name hold)
    rw [← h.logs]
    exact not_mem_logLocations hapart hisAt hisName helig hlocate

end Library

end EntryTemplates
