/-
**The journal.**

Every entry names its source, a dotted name below the library's own, and is handed from each source
to the nearest known one above it.  Entries that reach the library's own source, of level 10 and
above, are kept, shown on the console from its level on, and appended to each log file whose level
they reach.  A log file is known by its location, however its path is spelled; only one that was
added by a path with two slashes at the root is not known again.

Main definitions:

* `EntryTemplates.Journal` — the console's level, the log files, the known sources, the entries;
* `EntryTemplates.Journal.accept` — the journal after an entry;
* `EntryTemplates.Journal.parentOf` — the nearest known source above another;
* `EntryTemplates.Journal.reaches` — whether the entries of a source reach the library's own.
-/

import EntryTemplates.Files.Tree
import EntryTemplates.Level

set_option relaxedAutoImplicit false
set_option autoImplicit false

namespace EntryTemplates

/-- An entry of the journal. -/
structure Record where
  source : String
  level : Int
  message : String
  deriving DecidableEq, Repr

/-- A log file: where it stands, the least level of its entries, and the root of the path by which
it was added. -/
structure LogFile where
  location : Files.Location
  level : Int
  root : String := "/"
  deriving DecidableEq, Repr

/-- The path of a log file, without parts that lead up. -/
def LogFile.path (f : LogFile) : Files.Path := ⟨f.root, f.location⟩

/-- The log file that a path from a working directory means: of the slashes in front two are kept,
and any other number of them is one. -/
def LogFile.ofPath (t : Files.Tree) (p : Files.Path) (level : Int) : LogFile :=
  { location := t.absolute p, level, root := if p.root = "//" then "//" else "/" }

/-- The console's level, the log files in the order of their addition, the known sources, and the
entries, the last one first. -/
structure Journal where
  consoleLevel : Int
  files : List LogFile
  sources : List String
  records : List Record
  deriving Repr

namespace Journal

/-- The library's own source, which is above all others. -/
def topSource : String := "cpp_test_mains"

/-- The source of a part of the library; the library's own if no part is named. -/
def sourceOf : Option String → String
  | none => topSource
  | some "" => topSource
  | some part => topSource ++ "." ++ part

/-- The least level that is kept. -/
def leastLevel : Int := LevelName.debug.level

/-- A new journal: the console shows warnings, and there is no log file. -/
def start : Journal :=
  { consoleLevel := LevelName.warning.level
    files := []
    sources := topSource :: ["registry", "template_manager", "writer"].map fun s => sourceOf (some s)
    records := [] }

/-- The journal with a source known. -/
def know (j : Journal) (source : String) : Journal :=
  if source ∈ j.sources then j else { j with sources := j.sources ++ [source] }

/-- The known ones among the beginnings of a dotted name that end before a dot, from each to the
nearest one above it.  Where there are several dots in a row, the dot before one that was tried is
passed over.  Names are written in reverse. -/
def knownAbove (known : List Char → Bool) : List Char → List (List Char)
  | [] => []
  | '.' :: '.' :: rest =>
      if known ('.' :: rest) then ('.' :: rest) :: knownAbove known ('.' :: rest)
      else knownAbove known rest
  | '.' :: rest =>
      if known rest then rest :: knownAbove known rest else knownAbove known rest
  | _ :: rest => knownAbove known rest

/-- Whether a name, written in reverse, is that of a known source. -/
def isKnown (j : Journal) (name : List Char) : Bool :=
  let source := String.ofList name.reverse
  source = topSource || j.sources.contains source

/-- The known sources above a source, the nearest one first. -/
def above (j : Journal) (source : String) : List String :=
  (knownAbove j.isKnown source.toList.reverse).map fun name => String.ofList name.reverse

/-- **The nearest known source above another**; above the library's own stands the root. -/
def parentOf (j : Journal) (source : String) : String := (j.above source).headD "root"

/-- **Whether the entries of a source reach the library's own.** -/
def reaches (j : Journal) (source : String) : Bool :=
  source = topSource || (j.above source).contains topSource

/-- Whether an entry is kept: it reaches the library's own source, and its level is high enough. -/
def keeps (j : Journal) (r : Record) : Bool := leastLevel ≤ r.level && j.reaches r.source

/-- The journal after an entry; an entry that is not kept leaves no trace. -/
def accept (j : Journal) (r : Record) : Journal :=
  if j.keeps r then { j with records := r :: j.records } else j

/-- The line of an entry in a log file. -/
def line (stamp : String) (r : Record) : String :=
  stamp ++ " - " ++ r.source ++ " - " ++ levelText r.level ++ " - " ++ r.message ++ "\n"

/-- An entry as one text. -/
def recordText (r : Record) : String :=
  levelText r.level ++ " " ++ r.source ++ ": " ++ r.message

/-- The handlers of the journal, each with its level. -/
def handlers (j : Journal) : List String :=
  ("RichHandler " ++ levelText j.consoleLevel)
    :: j.files.map fun f => "FileHandler " ++ levelText f.level

/-- The tree after an entry was appended to the log files whose level it reaches. -/
def writeRecord (j : Journal) (stamp : String) (r : Record) (t : Files.Tree) : Files.Tree :=
  j.files.foldl (fun t f =>
    if f.level ≤ r.level then t.append f.location (line stamp r).toUTF8 else t) t

end Journal

end EntryTemplates
