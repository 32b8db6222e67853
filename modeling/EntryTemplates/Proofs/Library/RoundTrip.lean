/-
**New templates come back from the files they are kept in.**

Main results:

* `EntryTemplates.Library.templateOfFile_written` — what is read from a file that was written;
* `EntryTemplates.Library.created_comes_back` — **a new template is read back from its file
  unchanged exactly if none of its texts is lost**.
-/

import EntryTemplates.Proofs.Catalogue
import EntryTemplates.Proofs.Library.Operations
import EntryTemplates.Proofs.Library.TemplateFile

set_option relaxedAutoImplicit false
set_option autoImplicit false

namespace EntryTemplates.Library

open Document

/-- What is read from a file that holds a text. -/
theorem templateOfFile_of_locate {t : Files.Tree} {p : Files.Path} {location : Files.Location}
    {s : String} (h : t.locate p = .ok (.taken location (.file s.toUTF8))) (hmay : t.MayRead p) :
    templateOfFile t p = templateOf s p.text := by
  rw [templateOfFile, Files.Tree.read_of_locate h hmay]
  simp only [Text.decodeStream, Text.decode_toUTF8]

/-- What is read from a file that was written. -/
theorem templateOfFile_written {made written : Files.Tree} {p : Files.Path} {s : String}
    (h : made.write p s.toUTF8 = .ok written) (hmay : written.MayRead p) :
    templateOfFile written p = templateOf s p.text := by
  obtain ⟨location, hlocate⟩ := Files.Tree.locate_write h
  exact templateOfFile_of_locate hlocate hmay

/-- Creating a template changes, once its file is written, nothing but log files. -/
theorem noted_created (w : World) (written : Files.Tree) (t : Template) (p : Files.Path) :
    World.Noted { w with files := written } (created w written t p) :=
  (World.noted_registered _ t).trans (World.noted_told _ _ _)

/-- **A new template is read back from its file unchanged exactly if none of its texts is lost**,
unless the file is a log file, or stood there before and must not be read. -/
theorem created_comes_back {l l' : Library} {framework style : Argument}
    {content description author : String} {p : Files.Path} {w w' : World}
    (hcreate : (create framework style content description author).run.run ⟨l, w⟩ =
      (.ok p, ⟨l', w'⟩)) (hlog : ¬ w'.LogsTo p) (hmay : w'.files.MayRead p) :
    ∃ t, l'.catalogue.get framework style = .ok t ∧ t.content = content ∧
      t.description = description ∧ t.author = author ∧ t.source = p.text ∧
      (templateOfFile w'.files p = .ok t ↔
        ¬ (Lost content ∨ Lost description ∨ Lost author)) := by
  obtain ⟨directory, k, t, made, written, -, hparse, -, rfl, hvalid, -, hwritten, rfl, rfl⟩ :=
    create_eq_ok.1 hcreate
  obtain ⟨t, ht⟩ : ∃ t, t = newTemplate k content description author p.text := ⟨_, rfl⟩
  rw [← ht] at hvalid hwritten hlog hmay ⊢
  have hkey : t.key = k := by rw [ht]; rfl
  -- after the file was written nothing but log files has changed
  have hnoted := noted_created w written t p
  have hread : templateOfFile (created w written t p).files p =
      templateOf (Document.write (fileEntries t)) t.source := by
    rw [templateOfFile_of_noted hnoted fun h => hlog ((hnoted.logsTo_iff p).2 h),
      templateOfFile_written hwritten (hnoted.files.mayRead_iff.1 hmay), ht]
    rfl
  refine ⟨t, Catalogue.get_eq_ok.2 ⟨k, hparse, by rw [find?_adopt, if_pos hkey]⟩, by rw [ht]; rfl,
    by rw [ht]; rfl, by rw [ht]; rfl, by rw [ht]; rfl, ?_⟩
  have hiff := templateOf_write_iff (t := t) (by rw [ht]; rfl) (by rw [ht]; exact ⟨rfl, rfl⟩) hvalid
  rw [hread, hiff, ht]
  rfl

/-- A short template for Catch2. -/
def shortTemplate : String := "#include <catch2/catch_test_macros.hpp>\nTEST_CASE(\"a\") \x7b\x7d\n"

/-- A tree with an empty directory for templates. -/
def templatesMade : Files.Tree where
  entries := [(["work", "templates"], .directory), (["work"], .directory)]
  here := ["work"]

/-- The short template can be kept in a directory that is made for it. -/
theorem exists_create_of_directory {l : Library} (hdirectory : l.directory = some "templates") :
    ∃ (l' : Library) (p : Files.Path) (w' : World),
      (create (.member (.framework .catch2)) (.member (.style .autoMain)) shortTemplate "" "").run.run
          ⟨l, World.start⟩ = (.ok p, ⟨l', w'⟩) ∧ w'.logLocations = [] ∧ w'.files.denied = [] := by
  have hmade : Files.Tree.empty.makeDirectories (Files.Path.ofString "templates") =
      (templatesMade, .ok ()) :=
    Prod.ext (Files.Tree.ext (by decide +kernel) (by decide +kernel) (by decide +kernel))
      (by decide +kernel)
  have hpath : (Files.Path.ofString "templates").child (Key.mk .catch2 .autoMain).fileName =
      ⟨"", ["templates", "catch2-auto_main.yaml"]⟩ := by
    decide +kernel
  have hwritten (s : String) : templatesMade.write ⟨"", ["templates", "catch2-auto_main.yaml"]⟩
      s.toUTF8 = .ok _ :=
    Files.Tree.write_eq_ok.2 ⟨["work", "templates", "catch2-auto_main.yaml"],
      ⟨by decide +kernel, by decide +kernel, by decide⟩,
      Or.inl ⟨Files.Tree.walk_eq_ok.1 (by decide +kernel), by decide⟩, rfl⟩
  refine ⟨_, _, _, create_eq_ok.2 ⟨"templates", ⟨.catch2, .autoMain⟩, _, _, _,
    ⟨hdirectory, by decide⟩, ⟨rfl, rfl⟩, hpath.symm, rfl, by decide +kernel, hmade, hwritten _, rfl,
    rfl⟩, ?_, ?_⟩
  · exact (noted_created _ _ _ _).logs
  · exact (noted_created _ _ _ _).files.denied

theorem exists_create_start :
    ∃ (l' : Library) (p : Files.Path) (w' : World),
      (create (.member (.framework .catch2)) (.member (.style .autoMain)) shortTemplate "" "").run.run
          ⟨⟨.empty, some "templates", .catch2, .autoMain, []⟩, World.start⟩ =
        (.ok p, ⟨l', w'⟩) ∧ w'.logLocations = [] ∧ w'.files.denied = [] :=
  exists_create_of_directory rfl

theorem created_comes_back_short :
    ∃ (l' : Library) (p : Files.Path) (w' : World) (t : Template),
      (create (.member (.framework .catch2)) (.member (.style .autoMain)) shortTemplate "" "").run.run
          ⟨⟨.empty, some "templates", .catch2, .autoMain, []⟩, World.start⟩ = (.ok p, ⟨l', w'⟩) ∧
      ¬ w'.LogsTo p ∧ w'.files.MayRead p ∧
      l'.catalogue.get (.member (.framework .catch2)) (.member (.style .autoMain)) = .ok t ∧
      templateOfFile w'.files p = .ok t := by
  obtain ⟨l', p, w', hcreate, hlogs, hdenied⟩ := exists_create_start
  have hlog : ¬ w'.LogsTo p := by
    rintro ⟨location, hlocation, -⟩
    simp [hlogs] at hlocation
  have hmay : w'.files.MayRead p := fun _ _ _ hread => by simp [Files.Tree.Denies, hdenied] at hread
  obtain ⟨t, hget, -, -, -, -, hiff⟩ := created_comes_back hcreate hlog hmay
  exact ⟨l', p, w', t, hcreate, hlog, hmay, hget, hiff.2 (by decide +kernel)⟩

end EntryTemplates.Library
