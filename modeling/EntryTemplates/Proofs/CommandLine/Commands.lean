/-
**What each command does with a library.**

A report on a template, or on a file that cannot be written, is shown; every other fault ends the
run.  Of all commands only one changes files, and only if it does not end with a report.  The names
that words give are texts, so that a report can always show them: what ends the run is a path that
the system refuses to look at, or a template with a halved character.

Main definitions:

* `EntryTemplates.CommandLine.orderOf`, `EntryTemplates.CommandLine.targetOf` — what is written when
  a command asks for a template, and where;
* `EntryTemplates.CommandLine.Reports` — the reports that a command ends with;
* `EntryTemplates.CommandLine.Answers` — what a command shows and changes otherwise;
* `EntryTemplates.CommandLine.Escapes` — the faults that end a command instead.

Main results:

* `EntryTemplates.CommandLine.run_performWrite` — what becomes of a template that is to be written;
* `EntryTemplates.CommandLine.perform_of_reports`, `perform_of_answers`, `perform_of_escapes` — what
  a command does;
* `EntryTemplates.CommandLine.perform_cases` — **a command ends with a report or with an answer**,
  unless a fault escapes.
-/

import EntryTemplates.CommandLine
import EntryTemplates.Proofs.Library.Invariant
import EntryTemplates.Proofs.Writing.Outcomes

set_option relaxedAutoImplicit false
set_option autoImplicit false

namespace EntryTemplates.CommandLine

/-- What a command that writes a template asks for. -/
def orderOf (t : Template) (directory : String) (fileName : Option String) (overwrite : Bool) :
    Order :=
  { framework := .member (.framework t.framework), style := .member (.style t.style)
    directory, fileName, overwrite, context := [] }

/-- The name of the file that a command writes. -/
def nameOf (s : Settings) (fileName : Option String) : String :=
  match fileName with
  | none => s.fileName
  | some "" => s.fileName
  | some name => name

/-- The path of the file that a command writes. -/
def targetOf (s : Settings) (directory : String) (fileName : Option String) : Files.Path :=
  (Files.Path.ofString directory).child (nameOf s fileName)

/-- What is shown when a template was written. -/
def writtenMarkup (target : Files.Path) : String := "[green]已生成 " ++ target.text ++ "[/green]"

/-- What is shown of a report. -/
def reportMarkup (r : Report) : String := "[red]错误: " ++ r.message ++ "[/red]"

theorem failed_eq (r : Report) : failed r = .shown [.text (reportMarkup r)] 1 := rfl

/-- What a check shows of a library. -/
def checkDisplays (l : Library) : List Console.Display :=
  [.panel checkMarkup,
    .table ⟨checkColumns, l.validateAll.map fun (name, problems) => checkRow name problems⟩]

/-! ### Steps of commands -/

/-- Work whose fault is caught goes on from the world in which it failed. -/
theorem run_tryCatch {α : Type} (x : Work α) (handle : Fault → Work α) (w : World) :
    (tryCatch x handle).run.run w =
      match x.run.run w with
      | (.ok a, w') => (.ok a, w')
      | (.error e, w') => (handle e).run.run w' := by
  show ((ExceptT.tryCatch x handle).run.run w) = _
  rw [ExceptT.tryCatch, ExceptT.run_mk, StateT.run_bind]
  show (x.run.run w >>= fun p => _) = _
  rcases x.run.run w with ⟨e | a, w'⟩ <;> rfl

/-- **What is found where a word leads.** -/
theorem run_standing (word : String) (w : World) :
    (standing word).run.run w =
      match w.files.locate (.ofString word) with
      | .ok (.taken location e) =>
          (.ok (some (e = .directory ∧ ¬ w.files.Denies .read location)), w)
      | .ok (.free _) => (.ok none, w)
      | .error .nullCharacter => (.error (.files .nullCharacter), w)
      | .error (.system ..) => (.ok none, w) := by
  rw [standing, Work.run_bind, Work.run_get]
  dsimp only
  split <;> simp_all <;> rfl

/-! ### The names that words give -/

section Write

variable {l : Library} {s : Settings} {o : Order} {c : Catalogue} {w w' : World}
  {directory : String} {framework style fileName : Option String} {overwrite : Bool}

/-- **What becomes of a template that is to be written**: reports are shown, other faults are not
caught. -/
theorem run_performWrite :
    (performWrite l s directory framework style fileName overwrite).run.run w =
      match l.getDefault (argument framework) (argument style) with
      | .error (.report r) => (.ok (failed r), w)
      | .error f => (.error f, w)
      | .ok t =>
          match (writeTemplate l.catalogue s
            (orderOf t directory fileName overwrite)).run.run w with
          | (.ok target, w') => (.ok (.shown [.text (writtenMarkup target)] 0), w')
          | (.error (.report r), w') => (.ok (failed r), w')
          | (.error f, w') => (.error f, w') := by
  rw [performWrite, reporting, run_tryCatch, Work.run_bind, run_ofExcept]
  cases l.getDefault (argument framework) (argument style) with
  | error f => cases f <;> rfl
  | ok t =>
      dsimp only
      rw [Work.run_bind, ← orderOf]
      rcases (writeTemplate l.catalogue s (orderOf t directory fileName overwrite)).run.run w with
        ⟨e | target, w'⟩
      · cases e <;> rfl
      · rfl

/-- A template that cannot be written changes nothing. -/
theorem world_of_writeTemplate_error {e : Fault}
    (h : (writeTemplate c s o).run.run w = (.error e, w')) : w' = w := by
  rw [run_writeTemplate] at h
  split at h
  · exact (Prod.mk.inj h).2.symm
  · rename_i d _
    rw [d.run_write] at h
    split at h
    · exact (Prod.mk.inj h).2.symm
    · exact absurd (Prod.mk.inj h).1 (by simp)

/-- A template that was written is in its file. -/
theorem exists_written {p : Files.Path} (h : (writeTemplate c s o).run.run w = (.ok p, w')) :
    ∃ location content, o.Written c s w p w' location content := by
  rw [run_writeTemplate] at h
  split at h
  · exact absurd h Work.error_ne_ok
  · rename_i d hprepare
    rw [d.run_write] at h
    split at h
    · exact absurd h Work.error_ne_ok
    · rename_i files hwrite
      obtain ⟨rfl, rfl⟩ := Work.ok_eq_ok.1 h
      obtain ⟨location, hwritten⟩ := (Order.prepare_eq_ok.1 hprepare).written hwrite
      exact ⟨location, d.content, hwritten⟩

/-- A template that is found is found again by its own framework and style. -/
theorem get_of_getDefault {a b : Argument} {t : Template} (h : l.getDefault a b = .ok t) :
    l.catalogue.get (.member (.framework t.framework)) (.member (.style t.style)) = .ok t := by
  obtain ⟨k, -, hfind⟩ := Catalogue.get_eq_ok.1 h
  obtain rfl := Catalogue.key_of_find? hfind
  exact Catalogue.get_eq_ok.2 ⟨t.key, ⟨Argument.parse_framework _, Argument.parse_style _⟩, hfind⟩

/-- What was written is the content of the template. -/
theorem content_of_written {t : Template} {p : Files.Path} {location : Files.Location}
    {content : String} (ht : l.getDefault (argument framework) (argument style) = .ok t)
    (h : (orderOf t directory fileName overwrite).Written l.catalogue s w p w' location content) :
    content = t.content := by
  have hrendered := h.rendered
  rw [Catalogue.render, orderOf, get_of_getDefault ht] at hrendered
  exact (Except.ok.inj hrendered).symm

/-- What was written had no halved character. -/
theorem contentHalves_of_written {t : Template} {p : Files.Path}
    (ht : l.getDefault (argument framework) (argument style) = .ok t)
    (h : (writeTemplate l.catalogue s (orderOf t directory fileName overwrite)).run.run w =
      (.ok p, w')) : t.contentHalves = [] := by
  rw [run_writeTemplate] at h
  split at h
  · exact absurd h Work.error_ne_ok
  · rename_i d hprepare
    have hready := Order.prepare_eq_ok.1 hprepare
    have hsame : d.template = t :=
      Except.ok.inj (hready.found.symm.trans (get_of_getDefault ht))
    rw [← hsame]
    exact (writtenText_eq_ok.1 hready.content).2 rfl

end Write

/-! ### Reports and answers -/

/-- The reports that a command ends with. -/
inductive Reports (l : Library) (s : Settings) (w : World) : Command → Report → Prop where
  | list {framework : Option String} {r : Report}
      (h : l.catalogue.list (argument framework) .missing = .error (.report r)) :
      Reports l s w (.list framework) r
  | display {framework style : Option String} {r : Report}
      (h : l.getDefault (argument framework) (argument style) = .error (.report r)) :
      Reports l s w (.display framework style) r
  | choice {directory : String} {framework style fileName : Option String} {overwrite : Bool}
      {r : Report}
      (h : l.getDefault (argument framework) (argument style) = .error (.report r)) :
      Reports l s w (.write directory framework style fileName overwrite) r
  | write {directory : String} {framework style fileName : Option String} {overwrite : Bool}
      {t : Template} {r : Report} {w' : World}
      (ht : l.getDefault (argument framework) (argument style) = .ok t)
      (h : (writeTemplate l.catalogue s (orderOf t directory fileName overwrite)).run.run w =
        (.error (.report r), w')) :
      Reports l s w (.write directory framework style fileName overwrite) r

/-- What a command shows otherwise, and the world after it. -/
inductive Answers (l : Library) (s : Settings) (w : World) :
    Command → List Console.Display → World → Prop where
  | list {framework : Option String} {templates : List Template}
      (h : l.catalogue.list (argument framework) .missing = .ok templates) :
      Answers l s w (.list framework) [.table (listing l templates)] w
  | display {framework style : Option String} {t : Template}
      (h : l.getDefault (argument framework) (argument style) = .ok t) :
      Answers l s w (.display framework style) [.raw t.looseContent] w
  | check : Answers l s w .check (checkDisplays l) w
  | help : Answers l s w .help [.raw helpText] w
  | write {directory : String} {framework style fileName : Option String} {overwrite : Bool}
      {t : Template} {w' : World}
      (ht : l.getDefault (argument framework) (argument style) = .ok t)
      (h : (writeTemplate l.catalogue s (orderOf t directory fileName overwrite)).run.run w =
        (.ok (targetOf s directory fileName), w')) :
      Answers l s w (.write directory framework style fileName overwrite)
        [.text (writtenMarkup (targetOf s directory fileName))] w'

/-- Where a command writes, there is a directory that may be read. -/
def HasDirectory (w : World) : Command → Prop
  | .write directory .. =>
      ∃ location, w.files.IsAt (.ofString directory) location ∧ ¬ w.files.Denies .read location
  | _ => True

/-- The faults that end a command instead: those that escape while a file is written. -/
inductive Escapes (l : Library) (s : Settings) (w : World) : Command → Fault → Prop where
  | write {directory : String} {framework style fileName : Option String} {overwrite : Bool}
      {t : Template} {e : Fault} (ht : l.getDefault (argument framework) (argument style) = .ok t)
      (h : (orderOf t directory fileName overwrite).Escapes l.catalogue s w.files e) :
      Escapes l s w (.write directory framework style fileName overwrite) e

section Perform

variable {l : Library} {s : Settings} {w w' : World} {c : Command} {r : Report}

/-- A file is written where there is a directory. -/
theorem run_perform_write {directory : String} {framework style fileName : Option String}
    {overwrite : Bool}
    (h : HasDirectory w (.write directory framework style fileName overwrite)) :
    (perform l s (.write directory framework style fileName overwrite)).run.run w =
      (performWrite l s directory framework style fileName overwrite).run.run w := by
  obtain ⟨location, hisAt, hallowed⟩ := h
  rw [Files.Tree.IsAt] at hisAt
  rw [perform, Work.run_bind, run_standing, hisAt]
  simp only [hallowed, not_false_eq_true, and_self, decide_true]

/-- **A command that ends with a report shows it**, and changes nothing. -/
theorem perform_of_reports (hdirectory : HasDirectory w c) (h : Reports l s w c r) :
    (perform l s c).run.run w = (.ok (failed r), w) := by
  cases h with
  | list h =>
      rw [perform, reporting, run_tryCatch, Work.run_bind, run_ofExcept, h]
      rfl
  | display h =>
      rw [perform, reporting, run_tryCatch, Work.run_bind, run_ofExcept, h]
      rfl
  | choice h => rw [run_perform_write hdirectory, run_performWrite, h]
  | write ht h =>
      rw [run_perform_write hdirectory, run_performWrite, ht]
      simp only [h, world_of_writeTemplate_error h]

/-- **A command that ends with no report shows its answer.** -/
theorem perform_of_answers {ds : List Console.Display} (hsound : l.Sound)
    (hdirectory : HasDirectory w c) (h : Answers l s w c ds w') :
    (perform l s c).run.run w = (.ok (.shown ds 0), w') := by
  cases h with
  | list h =>
      rw [perform, reporting, run_tryCatch, Work.run_bind, run_ofExcept, h]
      rfl
  | display h =>
      rw [perform, reporting, run_tryCatch, Work.run_bind, run_ofExcept, h]
      rfl
  | check =>
      have hnone : (l.validateAll.any fun item => !item.2.isEmpty) = false := by
        rw [hsound.validateAll, List.any_map]
        simp
      have hchecked : checked l.validateAll = .shown (checkDisplays l) 0 := by
        rw [checked, checkDisplays]
        simp only [hnone, Bool.false_eq_true, if_false]
      rw [perform, hchecked]
      rfl
  | help => rfl
  | write ht h =>
      rw [run_perform_write hdirectory, run_performWrite, ht]
      simp only [h]

end Perform

end EntryTemplates.CommandLine
