/-
**What writing a template into a directory changes.**

Everything is checked before anything is written: the name of the file, the template, the directory,
the place of the file, and the text that the template makes.  The checks look at the files and
change nothing, and nothing can fail once the file is written.

Main definitions:

* `EntryTemplates.Delivery` — a text that is ready to be written, and where;
* `EntryTemplates.Order.prepare` — the checks;
* `EntryTemplates.Order.Written` — what an order has changed.

Main results:

* `EntryTemplates.run_writeTemplate` — the checks come first, and then the file is written;
* `EntryTemplates.Order.prepare_eq_ok` — what the checks ask for;
* `EntryTemplates.writeTemplate_effects` — **what writing a template changes**: its file and nothing
  else but log files, or nothing at all;
* `EntryTemplates.writing_changes_log` — a log file that is set up takes note of what is written.
-/

import EntryTemplates.Proofs.Catalogue
import EntryTemplates.Proofs.Files.Directories
import EntryTemplates.Proofs.Running
import EntryTemplates.Writing

set_option relaxedAutoImplicit false
set_option autoImplicit false

namespace EntryTemplates

/-! ### The name of the file -/

/-- **Which names are accepted**: those that an entry of a directory may have, without
backslashes. -/
theorem checkName_eq_ok {name : String} :
    checkName name = .ok () ↔ Files.IsName name ∧ '\\' ∉ name.toList := by
  rw [checkName]
  split
  · rename_i hempty
    refine iff_of_false (by simp) fun h => ?_
    rcases hempty with hempty | hempty | hempty
    · exact h.1.ne hempty
    · exact h.1.notHere hempty
    · exact h.1.notUp hempty
  · rename_i hproper
    rw [not_or, not_or] at hproper
    obtain ⟨hne, hnotHere, hnotUp⟩ := hproper
    split
    · rename_i hnull
      exact iff_of_false (by simp) fun h => h.1.noNull hnull
    · rename_i hnoNull
      split
      · rename_i hslash
        refine iff_of_false (by simp) fun h => ?_
        exact hslash.elim h.1.noSlash h.2
      · rename_i hnoSlash
        rw [not_or] at hnoSlash
        exact iff_of_true rfl ⟨⟨hne, hnotHere, hnotUp, hnoSlash.1, hnoNull⟩, hnoSlash.2⟩

/-! ### The checks -/

/-- A text that is ready to be written, the template that made it, and the path of its file. -/
structure Delivery where
  template : Template
  target : Files.Path
  content : String

/-- **Which text is written of a template**: the one that is rendered, where without a context no
character of the content may be halved. -/
theorem writtenText_eq_ok {t : Template} {context : Render.Context} {content : String} :
    writtenText t context = .ok content ↔
      Catalogue.renderTemplate t context = .ok content ∧
        (context = [] → t.contentHalves = []) := by
  rw [writtenText, Catalogue.renderTemplate]
  cases context with
  | nil =>
      simp only [List.isEmpty_nil, if_true, Except.mapError_eq_ok, Text.Loose.whole_eq_ok,
        Template.looseContent, Except.ok.injEq, forall_const]
      exact ⟨fun h => ⟨h.2.symm, h.1⟩, fun h => ⟨h.2, h.1.symm⟩⟩
  | cons item context => simp

namespace Order

/-- The checks of an order, which only look at the files. -/
def prepare (o : Order) (c : Catalogue) (s : Settings) (files : Files.Tree) :
    Except Fault Delivery := do
  (checkName (o.name s)).mapError .report
  let t ← c.get o.framework o.style
  let directory := Files.Path.ofString o.directory
  let target := directory.child (o.name s)
  match ← (files.isDirectory directory).mapError .files with
  | false =>
      throw (unwritten t directory ("目标目录不存在: " ++ directory.text) "missing_directory")
  | true =>
      let taken ← (files.contains target).mapError .files
      if taken && !o.overwrite then
        throw (unwritten t target ("文件已存在: " ++ target.text) "exists")
      let content ← writtenText t o.context
      return ⟨t, target, content⟩

end Order

theorem run_report {α : Type} (x : Except Report α) (w : World) :
    (report x).run.run w = (x.mapError .report, w) := by
  cases x <;> rfl

theorem run_ofExcept {α : Type} (x : Except Fault α) (w : World) :
    (Work.ofExcept x).run.run w = (x, w) := by
  cases x <;> rfl

/-! ### Writing what is ready -/

namespace Delivery

/-- What is ready written to its file. -/
def write (d : Delivery) : Work Files.Path := do
  match (← get).files.write d.target d.content.toUTF8 with
  | .error e => throw (unwritten d.template d.target ("写入失败: " ++ e.message) "io_error")
  | .ok files => Work.setFiles files
  Work.log "writer" .info ("Wrote " ++ d.template.name ++ " to " ++ d.target.text)
  return d.target

/-- The world after what was ready was written. -/
def written (d : Delivery) (w : World) (files : Files.Tree) : World :=
  { w with files }.logged "writer" .info ("Wrote " ++ d.template.name ++ " to " ++ d.target.text)

theorem run_write (d : Delivery) (w : World) :
    d.write.run.run w =
      match w.files.write d.target d.content.toUTF8 with
      | .error e =>
          (.error (unwritten d.template d.target ("写入失败: " ++ e.message) "io_error"), w)
      | .ok files => (.ok d.target, d.written w files) := by
  rw [write, Work.run_bind, Work.run_get]
  dsimp only
  cases w.files.write d.target d.content.toUTF8 <;> rfl

end Delivery

/-- **The checks come first, and then the file is written.** -/
theorem run_writeTemplate (c : Catalogue) (s : Settings) (o : Order) (w : World) :
    (writeTemplate c s o).run.run w =
      match o.prepare c s w.files with
      | .error e => (.error e, w)
      | .ok d => d.write.run.run w := by
  rw [writeTemplate, Order.prepare]
  dsimp only
  rw [Work.run_bind, run_report]
  cases checkName (o.name s) with
  | error r => rfl
  | ok u =>
      simp only [Except.mapError]
      rw [Work.run_bind, run_ofExcept]
      cases c.get o.framework o.style with
      | error e => rfl
      | ok t =>
          dsimp only
          rw [Work.run_bind, Work.run_files]
          cases w.files.isDirectory (Files.Path.ofString o.directory) with
          | error e => rfl
          | ok there =>
              cases there with
              | false => rfl
              | true =>
                  simp only [Except.mapError, Bool.not_true, Bool.false_eq_true, if_false]
                  rw [Work.run_bind, Work.run_files]
                  cases w.files.contains ((Files.Path.ofString o.directory).child (o.name s)) with
                  | error e => rfl
                  | ok taken =>
                      simp only [Except.mapError, Except.ok_bind]
                      cases htaken : taken && !o.overwrite with
                      | true => rfl
                      | false =>
                          simp only [Bool.false_eq_true, if_false]
                          rw [Work.run_bind, run_ofExcept]
                          cases writtenText t o.context with
                          | error e => rfl
                          | ok content => rfl

namespace Order

/-- What the checks of an order ask for. -/
structure Ready (o : Order) (c : Catalogue) (s : Settings) (files : Files.Tree) (d : Delivery) :
    Prop where
  name : Files.IsName (o.name s) ∧ '\\' ∉ (o.name s).toList
  found : c.get o.framework o.style = .ok d.template
  directory : ∃ location, files.IsAt (Files.Path.ofString o.directory) location
  target : d.target = (Files.Path.ofString o.directory).child (o.name s)
  free : ∃ taken, files.contains d.target = .ok taken ∧ (taken = true → o.overwrite = true)
  content : writtenText d.template o.context = .ok d.content

/-- **What the checks ask for.** -/
theorem prepare_eq_ok {o : Order} {c : Catalogue} {s : Settings} {files : Files.Tree}
    {d : Delivery} : o.prepare c s files = .ok d ↔ o.Ready c s files d := by
  rw [prepare]
  constructor
  · intro h
    obtain ⟨u, hname, h⟩ := Except.bind_eq_ok.1 h
    obtain ⟨t, hfound, h⟩ := Except.bind_eq_ok.1 h
    obtain ⟨there, hdirectory, h⟩ := Except.bind_eq_ok.1 h
    rw [Except.mapError_eq_ok] at hname hdirectory
    cases there with
    | false => cases h
    | true =>
        obtain ⟨taken, htaken, h⟩ := Except.bind_eq_ok.1 h
        rw [Except.mapError_eq_ok] at htaken
        dsimp only at h
        split at h
        · cases h
        · rename_i hfree
          obtain ⟨content, hcontent, h⟩ := Except.bind_eq_ok.1 h
          obtain rfl := Except.ok.inj h
          refine ⟨checkName_eq_ok.1 hname, hfound, Files.Tree.isAt_of_isDirectory hdirectory, rfl,
            ⟨taken, htaken, ?_⟩, hcontent⟩
          intro htrue
          simpa [htrue] using hfree
  · rintro ⟨hname, hfound, ⟨location, hisAt⟩, htarget, ⟨taken, htaken, hfree⟩, hcontent⟩
    have hnot : (taken && !o.overwrite) = false := by
      cases htrue : taken with
      | false => rfl
      | true => simp [hfree htrue]
    rw [htarget] at htaken
    simp only [checkName_eq_ok.2 hname, hfound, Files.Tree.isDirectory_of_isAt hisAt, htaken,
      Except.mapError, Except.ok_bind, hnot, Bool.false_eq_true, if_false, hcontent]
    rw [← htarget]
    rfl

/-- What an order has changed: the file of its name in its directory holds the text that its
template makes, unless it is a log file, and besides nothing but log files has changed. -/
structure Written (o : Order) (c : Catalogue) (s : Settings) (w : World) (p : Files.Path)
    (w' : World) (location : Files.Location) (content : String) : Prop where
  /-- The path is that of a name in the directory, which was there and stays where it is. -/
  path : p = (Files.Path.ofString o.directory).child (o.name s)
  isName : Files.IsName (o.name s)
  directory : w.files.IsAt (Files.Path.ofString o.directory) location
  stays : w'.files.IsAt (Files.Path.ofString o.directory) location
  rendered : c.render o.framework o.style o.context = .ok content
  /-- Only where replacing is allowed something may have been there before. -/
  free : o.overwrite = false → w.files.at? (location ++ [o.name s]) = none
  found : ∃ bytes, w'.files.locate p = .ok (.taken (location ++ [o.name s]) (.file bytes)) ∧
    (location ++ [o.name s] ∉ w.logLocations → bytes = content.toUTF8)
  others : ∀ other, other ≠ location ++ [o.name s] → other ∉ w.logLocations →
    w'.files.at? other = w.files.at? other
  /-- The text was put into its file, and the journal has taken note of that. -/
  world : ∃ t, c.get o.framework o.style = .ok t ∧
    w' = { w with files := w.files.put (location ++ [o.name s]) (.file content.toUTF8) }.logged
      "writer" .info ("Wrote " ++ t.name ++ " to " ++ p.text)

/-- What is written once the checks have passed. -/
theorem Ready.written {o : Order} {c : Catalogue} {s : Settings} {w : World} {d : Delivery}
    {files : Files.Tree} (h : o.Ready c s w.files d)
    (hwrite : w.files.write d.target d.content.toUTF8 = .ok files) :
    ∃ location, o.Written c s w d.target (d.written w files) location d.content := by
  obtain ⟨⟨hname, -⟩, hfound, ⟨location, hisAt⟩, htarget, ⟨taken, htaken, hallowed⟩, hcontent⟩ := h
  have hnoted : World.Noted { w with files } (d.written w files) := World.noted_logged _ _ _ _
  have hsame : Files.Tree.SameBut w.logLocations files (d.written w files).files := hnoted.files
  rw [htarget] at hwrite htaken
  obtain ⟨hstays, -, -⟩ := hisAt.write_child hname hwrite
  obtain ⟨hput, -⟩ := hisAt.eq_put_of_write hname hwrite
  -- the file is found under its name, also after the entries of the journal
  obtain ⟨place, hplace⟩ := Files.Tree.locate_write hwrite
  obtain ⟨rfl, -⟩ := hstays.location_of_file hname hplace
  refine ⟨location, htarget, hname, hisAt, hsame.locate_directory hstays, ?_, fun hoverwrite => ?_,
    ?_, fun other hother hlog => ?_, d.template, hfound, by rw [← hput]; rfl⟩
  · rw [Catalogue.render, hfound]
    exact (writtenText_eq_ok.1 hcontent).1
  · refine hisAt.at?_of_not_contains hname hwrite ?_
    cases taken with
    | false => exact htaken
    | true => simp [hallowed rfl] at hoverwrite
  · rw [htarget]
    exact hsame.locate_file hplace
  · rw [hsame.same other hlog, hput]
    exact Files.Tree.at?_put_of_ne _ hother _

end Order

/-- **What writing a template changes.** -/
theorem writeTemplate_effects (c : Catalogue) (s : Settings) (o : Order) (w : World) :
    match (writeTemplate c s o).run.run w with
    | (.error _, w') => w' = w
    | (.ok p, w') => ∃ location content, o.Written c s w p w' location content := by
  rw [run_writeTemplate]
  cases hprepare : o.prepare c s w.files with
  | error e => rfl
  | ok d =>
      dsimp only
      rw [d.run_write]
      cases hwrite : w.files.write d.target d.content.toUTF8 with
      | error e => rfl
      | ok files =>
          obtain ⟨location, hwritten⟩ := (Order.prepare_eq_ok.1 hprepare).written hwrite
          exact ⟨location, d.content, hwritten⟩

/-- A world in which a log file is set up. -/
def loggedStart : World :=
  { World.start with
    files :=
      { entries := [(["work", "log.txt"], .file .empty), (["work", "out"], .directory),
          (["work"], .directory)]
        here := ["work"] }
    journal := { Journal.start with files := [{ location := ["work", "log.txt"], level := LevelName.debug.level }] } }

/-- A catalogue with one template. -/
def plainCatalogue : Catalogue :=
  ⟨[{ framework := .catch2, style := .autoMain, content := "int x;\n" }]⟩

/-- The order of that template. -/
def plainOrder : Order := ⟨.plain (.text "catch2"), .plain (.text "auto_main"), "out", none, false, []⟩

/-- **A log file takes note of what is written**, although it is not the file that is written. -/
theorem writing_changes_log :
    ∃ p w', (writeTemplate plainCatalogue .standard plainOrder).run.run loggedStart = (.ok p, w') ∧
      loggedStart.files.IsAt (.ofString plainOrder.directory) ["work", "out"] ∧
      ["work", "log.txt"] ≠ ["work", "out"] ++ [plainOrder.name .standard] ∧
      w'.files.at? ["work", "log.txt"] ≠ loggedStart.files.at? ["work", "log.txt"] := by
  have hok : ((writeTemplate plainCatalogue .standard plainOrder).run.run
      loggedStart).1.toOption.isSome = true := by decide +kernel
  have hlog : ((writeTemplate plainCatalogue .standard plainOrder).run.run
      loggedStart).2.files.at? ["work", "log.txt"] ≠
        loggedStart.files.at? ["work", "log.txt"] := by decide +kernel
  have hisAt : loggedStart.files.IsAt (.ofString plainOrder.directory) ["work", "out"] := by
    rw [Files.Tree.IsAt]
    decide +kernel
  cases hrun : (writeTemplate plainCatalogue .standard plainOrder).run.run loggedStart with
  | mk result w' =>
      rw [hrun] at hok hlog
      cases result with
      | error e => exact absurd hok (by simp [Except.toOption])
      | ok p => exact ⟨p, w', rfl, hisAt, by decide, hlog⟩

end EntryTemplates
