/-
**The command line.**

Words are read, a library is opened, and a command is carried out on it.  What a command shows is
collected first and drawn afterwards; what was written before something cannot be drawn remains.

Main definitions:

* `EntryTemplates.CommandLine.Answer` — what is to be shown, and how the run ends;
* `EntryTemplates.CommandLine.perform` — a command carried out on a library;
* `EntryTemplates.CommandLine.answer` — the answer to the words of a command line;
* `EntryTemplates.CommandLine.run` — **a run**: its output, and how it ended.
-/

import EntryTemplates.CommandLine.Command
import EntryTemplates.Console.Display
import EntryTemplates.Library
import EntryTemplates.Writing

set_option relaxedAutoImplicit false
set_option autoImplicit false

namespace EntryTemplates.CommandLine

/-- What is to be shown, and how the run ends. -/
inductive Answer where
  | shown (displays : List Console.Display) (exitCode : Nat)
  /-- The words make no sense. -/
  | misused (m : Misuse)

/-- The version of this program. -/
def versionMarkup : String := "[bold blue]cpp-test-mains[/bold blue] version 0.1.0"

/-! ### What commands show -/

/-- A report as an answer. -/
def failed (r : Report) : Answer := .shown [.text ("[red]错误: " ++ r.message ++ "[/red]")] 1

/-- An argument that may be left out. -/
def argument (word : Option String) : Argument :=
  match word with
  | some s => .ofString s
  | none => .missing

/-- The columns of a listing. -/
def listingColumns : List Console.Column :=
  [⟨"框架", false, .left⟩, ⟨"样式", false, .left⟩, ⟨"名称", false, .left⟩, ⟨"来源", true, .left⟩,
    ⟨"行数", true, .right⟩, ⟨"描述", true, .left⟩]

/-- A template in a listing. -/
def listingRow (l : Library) (t : Template) : List Text.Loose :=
  [t.framework.name, t.style.name, t.framework.profile.displayName,
    if l.custom.contains t.key then "自定义" else "内置",
    toString (Text.splitLines t.content.toList).length, t.looseDescription]

/-- Templates in a table. -/
def listing (l : Library) (templates : List Template) : Console.Table :=
  ⟨listingColumns, templates.map (listingRow l)⟩

/-- The heading of a check. -/
def checkMarkup : String := "[bold blue]🔍 模板校验[/bold blue]"

/-- The columns of a check. -/
def checkColumns : List Console.Column :=
  [⟨"模板", false, .left⟩, ⟨"状态", true, .left⟩, ⟨"信息", true, .left⟩]

/-- A template's problems in a check. -/
def checkRow (name : String) (problems : List String) : List Text.Loose :=
  if problems.isEmpty then [name, "[green]✓[/green]", "OK"]
  else [name, "[red]✗[/red]", "; ".intercalate problems]

/-- The answer to a check. -/
def checked (results : List (String × List String)) : Answer :=
  .shown
    [.panel checkMarkup, .table ⟨checkColumns, results.map fun (name, ps) => checkRow name ps⟩]
    (if results.any fun (_, problems) => !problems.isEmpty then 1 else 0)

/-! ### Commands -/

/-- Whether a directory that may be read stands where a word leads, if anything does; a null
character in the word is an error.  The word is read as a path before it is looked at: the empty one
leads to the working directory, and a slash at the end is of no account. -/
def standing (word : String) : Work (Option Bool) := do
  let files := (← get).files
  match files.locate (.ofString word) with
  | .ok (.taken location e) => return some (e = .directory ∧ ¬ files.Denies .read location)
  | .ok (.free _) => return none
  | .error .nullCharacter => throw (.files .nullCharacter)
  | .error (.system ..) => return none

/-- An answer, where a report is an answer too. -/
def reporting (work : Work Answer) : Work Answer :=
  tryCatch work fun
    | .report r => return failed r
    | f => throw f

/-- A template written into an existing directory. -/
def performWrite (l : Library) (s : Settings) (directory : String)
    (framework style fileName : Option String) (overwrite : Bool) : Work Answer := reporting do
  let t ← Work.ofExcept (l.getDefault (argument framework) (argument style))
  let target ← writeTemplate l.catalogue s
    { framework := .member (.framework t.framework), style := .member (.style t.style)
      directory, fileName, overwrite, context := [] }
  return .shown [.text ("[green]已生成 " ++ target.text ++ "[/green]")] 0

/-- **A command carried out on a library.** -/
def perform (l : Library) (s : Settings) : Command → Work Answer
  | .help => return .shown [.raw helpText] 0
  | .list framework => reporting do
      let templates ← Work.ofExcept (l.catalogue.list (argument framework) .missing)
      return .shown [.table (listing l templates)] 0
  | .display framework style => reporting do
      let t ← Work.ofExcept (l.getDefault (argument framework) (argument style))
      return .shown [.raw t.looseContent] 0
  | .check => return checked l.validateAll
  | .write directory framework style fileName overwrite => do
      match ← standing directory with
      | some true => performWrite l s directory framework style fileName overwrite
      | _ => return .misused (.unsuitable "DEST" directory)

/-! ### Runs -/

/-- The answer to an option that is obeyed before all others. -/
def urgentAnswer : Parameter → Answer
  | .version => .shown [.text versionMarkup] 0
  | _ => .shown [.raw helpText] 0

/-- The answer to a command that does not exist: words that look like options are read as such. -/
def unknownCommand (words : List String) : Answer :=
  match (Given.read generalParameters false words).map urgent? with
  | .ok (some p) => urgentAnswer p
  | _ => .misused (.unknownCommand (words.headD ""))

/-- The answer to a command and the words after it, when the options before it are known. -/
def answerCommand (s : Settings) (general : Given) (name : CommandName) (words : List String) :
    Work Answer := do
  let level := if general.has .verbose then LevelName.debug else s.logLevel
  Work.setUpLogging level.level s.logFile
  let directory := match general.value? .directory with
    | some word => some (Files.Path.ofString word).text
    | none => s.directory
  let l ← Library.openWith ⟨directory, .missing, .missing⟩ s
  match name.read words with
  | .error m => return .misused m
  | .ok c => perform l s c

/-- The answer to operands, when the options before them are known. -/
def answerOperands (s : Settings) (general : Given) : Work Answer := do
  let isUnsuitable ← match general.value? .directory with
    | some word => pure ((← standing word) == some false)
    | none => pure false
  if isUnsuitable then
    return .misused (.unsuitable "--templates-dir" ((general.value? .directory).getD ""))
  match general.operands with
  | [] => return .misused .noCommand
  | word :: words =>
      match Vocabulary.find? word with
      | some name => answerCommand s general name words
      | none => return unknownCommand (word :: words)

/-- **The answer to the words of a command line.** -/
def answer (s : Settings) (words : List String) : Work Answer :=
  match Given.read generalParameters false words with
  | .error m => return .misused m
  | .ok general =>
      match urgent? general with
      | some p => return urgentAnswer p
      | none => answerOperands s general

/-- The paths that the words of a command line and the settings may mean. -/
def mentioned (s : Settings) (words : List String) : List String :=
  s.directory.toList ++ s.logFile.toList
    ++ match Given.read generalParameters false words with
      | .ok general => (general.value? .directory).toList ++ general.operands.drop 1
      | .error _ => []

/-- The output of a run, and how it ended. -/
structure Outcome where
  output : String
  exitCode : Nat
  /-- What ended the run before its time. -/
  fault : Option Fault
  /-- Why the words make no sense. -/
  misuse : Option Misuse

/-- An answer drawn on a console of so many cells. -/
def Answer.draw (width : Nat) : Answer → Outcome
  | .misused m => ⟨"", 2, none, some m⟩
  | .shown displays exitCode =>
      match Console.shown width displays with
      | (output, none) => ⟨output, exitCode, none, none⟩
      | (output, some problem) => ⟨output, 1, some (.console problem), none⟩

/-- **A run** on a console of so many cells. -/
def run (s : Settings) (width : Nat) (words : List String) : StateM World Outcome := do
  match ← (answer s words).run with
  | .ok a => return a.draw width
  | .error f => return ⟨"", 1, some f, none⟩

end EntryTemplates.CommandLine
