/-
**Work on files that leaves traces in the journal.**

Nothing but the work itself changes the files.  The time is read once, so that all entries of a log
file show the same.

Main definitions:

* `EntryTemplates.World` — the files, the journal, and how the present time is written;
* `EntryTemplates.Work` — work that changes the world and may fail; a failure undoes nothing;
* `EntryTemplates.Work.log` — an entry in the journal;
* `EntryTemplates.Work.addLogFile`, `EntryTemplates.Work.setUpLogging` — the log files.
-/

import EntryTemplates.Fault
import EntryTemplates.Journal

set_option relaxedAutoImplicit false
set_option autoImplicit false

namespace EntryTemplates

/-- The files, the journal, and how the present time is written. -/
structure World where
  files : Files.Tree
  journal : Journal
  stamp : String

/-- Work that changes the world and may fail. -/
abbrev Work (α : Type) := ExceptT Fault (StateM World) α

namespace Work

/-- The work of nothing but a calculation. -/
def ofExcept {α : Type} : Except Fault α → Work α
  | .ok a => pure a
  | .error e => throw e

/-- A question about the files, or a calculation on them. -/
def files {α : Type} (f : Files.Tree → Except Files.Failure α) : Work α := do
  match f (← get).files with
  | .ok a => pure a
  | .error e => throw (.files e)

/-- The files replaced. -/
def setFiles (t : Files.Tree) : Work Unit := modify fun w => { w with files := t }

/-- A change of the files. -/
def changeFiles (f : Files.Tree → Except Files.Failure Files.Tree) : Work Unit := do
  setFiles (← files f)

/-- A directory made together with those above it. -/
def makeDirectories (p : Files.Path) : Work Unit := do
  let (t, outcome) := (← get).files.makeDirectories p
  setFiles t
  match outcome with
  | .ok () => pure ()
  | .error e => throw (.files e)

/-- An entry in the journal and in its log files. -/
def record (r : Record) : Work Unit := modify fun w =>
  let known := w.journal.know r.source
  let journal := known.accept r
  if known.keeps r then { w with journal, files := journal.writeRecord w.stamp r w.files }
  else { w with journal }

/-- An entry of a part of the library. -/
def log (part : String) (level : LevelName) (message : String) : Work Unit :=
  record ⟨Journal.sourceOf (some part), level.level, message⟩

/-- The console's level changed. -/
def setConsoleLevel (level : Int) : Work Unit :=
  modify fun w => { w with journal := { w.journal with consoleLevel := level } }

/-- **A log file added**, unless it is one already; the directories above it are made. -/
def addLogFile (path : String) (level : Int) : Work Unit := do
  let p := Files.Path.ofString path
  makeDirectories p.parent
  let w ← get
  let new := LogFile.ofPath w.files p level
  if Files.Tree.hasNull p then throw (.files .nullCharacter)
  if w.journal.files.any fun f => f.path = ⟨"/", new.location⟩ then pure ()
  else
    changeFiles fun t => t.ensureFile new.path
    modify fun w => { w with journal := { w.journal with files := w.journal.files ++ [new] } }

/-- The console's level set and, if a path is given, a log file added. -/
def setUpLogging (level : Int) (logFile : Option String) : Work Unit := do
  setConsoleLevel level
  match logFile with
  | none => pure ()
  | some "" => pure ()
  | some path => addLogFile path LevelName.debug.level

end Work

end EntryTemplates
