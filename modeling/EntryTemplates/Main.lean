/-
**The program.**

The directories and files that a run may look at are read, the run is made, and what it changed is
written.

Much may happen to a program that the library does not tell of.  Left out are:

* the limits of the machine: memory, the stack and the disk never run out, however deeply a document
  or a template is nested (`EntryTemplates.Document`, `EntryTemplates.Render`);
* other programs: nobody else changes the files meanwhile, and there are no links, devices or owners
  in the tree, nor anyone to whom nothing is denied (`EntryTemplates.Files.Tree`);
* halves of characters in anything but a document: words, settings, contexts, names of files and the
  literals of a template hold none.  A document may give them to a template, where they are followed
  until it is written or shown, but not while it is rendered (`EntryTemplates.Text.Loose`,
  `EntryTemplates.Render`);
* what chance decides, a few rare forms of templates (`EntryTemplates.Render`), and a few of the
  values that tags may hold (`EntryTemplates.Console.Literal`);
* the words in which a malformed document is described (`EntryTemplates.Document.Malformed`);
* colours, and everything that is put out as an error: the journal on the console and the report on
  words that make no sense (`EntryTemplates.Console.Markup`).

What is denied at a file or directory, the numbers that are too long to be written, and the halves
that a document gives are part of it.

Main definitions:

* `main` — the program.
-/

import EntryTemplates.CommandLine
import EntryTemplates.Settings.Reading
import Std.Time.Format

set_option relaxedAutoImplicit false
set_option autoImplicit false

namespace EntryTemplates.Program

open EntryTemplates.Files (Tree Entry Location Path)

/-- The path of a location. -/
def placeText (location : Location) : String := "/" ++ "/".intercalate location

/-- What is read from the disk, unless that is not permitted. -/
def permitted {α : Type} (reading : IO α) : IO (Option α) := do
  try return some (← reading)
  catch
    | .permissionDenied .. => return none
    | e => throw e

/-- The tree with what stands at a location on the disk. -/
def loadEntry (t : Tree) (location : Location) : IO Tree := do
  if (t.at? location).isSome then return t
  let text := placeText location
  let place := (← IO.currentDir) / text
  if !(← place.pathExists) then return t
  if ← place.isDir then return t.put location .directory
  match ← permitted (IO.FS.readBinFile text) with
  | some bytes => return t.put location (.file bytes)
  | none => return (t.put location (.file .empty)).deny .read location

/-- The tree with what a path leads to on the disk, the directories above it, and the entries of a
directory. -/
def load (t : Tree) (text : String) : IO Tree := do
  let location := t.absolute (Path.ofString text)
  let t ← ((List.range location.length).map fun n => location.take (n + 1)).foldlM loadEntry t
  if t.at? location != some .directory then return t
  let place := (← IO.currentDir) / placeText location
  match ← permitted place.readDir with
  | some entries =>
      entries.toList.foldlM (fun t entry => loadEntry t (location ++ [entry.fileName])) t
  | none => return t.deny .read location

/-- What differs from an older tree put on the disk. -/
def save (old new : Tree) : IO Unit := do
  let changed := new.entries.filter fun (location, e) => old.at? location != some e
  for (location, e) in changed do
    if e == .directory then IO.FS.createDirAll (placeText location)
  for (location, e) in changed do
    if let .file bytes := e then IO.FS.writeBinFile (placeText location) bytes

/-- The variables for settings that are set. -/
def environment : IO (List (String × String)) :=
  Settings.Field.all.filterMapM fun f => do
    return (← IO.getEnv f.variable).map fun value => (f.variable, value)

/-- The number of cells of the console. -/
def consoleWidth : IO Nat := do return ((← IO.getEnv "COLUMNS").bind String.toNat?).getD 80

/-- A run with what it shows. -/
def run (s : Settings) (w : World) (words : List String) : IO UInt32 := do
  let files ← (CommandLine.mentioned s words).foldlM load w.files
  let (outcome, after) := (CommandLine.run s (← consoleWidth) words).run { w with files }
  save files after.files
  for r in after.journal.records.reverse do
    if after.journal.consoleLevel ≤ r.level then IO.eprintln (Journal.recordText r)
  IO.print outcome.output
  if let some m := outcome.misuse then IO.eprintln ("Error: " ++ m.message)
  if let some f := outcome.fault then IO.eprintln f.message
  return UInt32.ofNat outcome.exitCode

end EntryTemplates.Program

open EntryTemplates Program in
/-- The program. -/
def main (words : List String) : IO UInt32 := do
  let here := (Files.Path.ofString (← IO.currentDir).toString).parts
  let files ← [".", Settings.envFileName].foldlM load { entries := [], here }
  let stamp := (← Std.Time.PlainDateTime.now).format "uuuu-MM-dd HH:mm:ss"
  let (settings, w) := ((Settings.ofSurroundings (← environment)).run).run ⟨files, .start, stamp⟩
  match settings with
  | .ok s => run s w words
  | .error f =>
      IO.eprintln f.message
      return 1
