/-
**Settings.**

Every setting takes its value from the first source that provides it: the values given directly,
the environment, a file of environment variables, and last its default.  Names of variables begin
with `CPP_TEST_MAINS_` and are compared without regard to case; an empty value counts as provided.

Main definitions:

* `EntryTemplates.Settings` — the six settings;
* `EntryTemplates.Settings.Sources` — where their values come from;
* `EntryTemplates.Settings.build` — the settings that sources provide, or what is wrong with them.
-/

import EntryTemplates.Datum
import EntryTemplates.Level
import EntryTemplates.Settings.EnvFile
import EntryTemplates.Settings.Problem
import EntryTemplates.Text.Utf8

set_option relaxedAutoImplicit false
set_option autoImplicit false

namespace EntryTemplates

/-- The six settings. -/
structure Settings where
  /-- The framework of templates for which none is named. -/
  framework : Framework
  /-- The style of templates for which none is named. -/
  style : Style
  /-- Where custom templates are. -/
  directory : Option String
  /-- The name of files for which none is named. -/
  fileName : String
  /-- The least level of what the console shows. -/
  logLevel : LevelName
  logFile : Option String
  deriving DecidableEq, Repr

namespace Settings

/-- The settings that hold if nothing is said. -/
def standard : Settings :=
  { framework := .catch2
    style := .autoMain
    directory := none
    fileName := "main.cpp"
    logLevel := .warning
    logFile := none }

/-! ### Checks -/

/-- A value that must be a text; bytes are read as one. -/
def checkText : Datum → Except Refusal String
  | .text s => .ok s
  | .bytes bs =>
      match Text.decode ⟨bs.toArray⟩ with
      | .ok s => .ok s
      | .error _ => .error .notUnicode
  | _ => .error .notText

/-- A framework. -/
def checkFramework (d : Datum) : Except Refusal Framework := do
  let s ← checkText d
  match Vocabulary.read s with
  | .ok f => .ok f
  | .error _ => .error (.unknownFramework s)

/-- A style. -/
def checkStyle (d : Datum) : Except Refusal Style := do
  let s ← checkText d
  match Vocabulary.read s with
  | .ok f => .ok f
  | .error _ => .error (.unknownStyle s)

/-- A path that may be left out; nothing but white space leaves it out. -/
def checkPath : Datum → Except Refusal (Option String)
  | .null => .ok none
  | d => do
      let s ← checkText d
      return if Text.isBlankText s.toList then none else some s

/-- The endings of source files. -/
def sourceEndings : List String := [".cpp", ".cc", ".cxx"]

/-- The name of a source file without a directory. -/
def checkFileName (d : Datum) : Except Refusal String := do
  let s ← checkText d
  if s = "" ∨ s = "." ∨ s = ".." then .error .emptyFileName
  else if '/' ∈ s.toList ∨ '\\' ∈ s.toList then .error (.separator s)
  else if sourceEndings.any fun ending => ending.toList.isSuffixOf s.toList then .ok s
  else .error (.notSource s)

/-- The name of a level. -/
def checkLevel (d : Datum) : Except Refusal LevelName := do
  let s ← checkText d
  match LevelName.read? s with
  | some n => .ok n
  | none => .error (.unknownLevel s)

/-! ### Sources -/

/-- Where the values of settings come from. -/
structure Sources where
  /-- The values given directly, under the names of settings. -/
  given : List (String × Datum)
  environment : List (String × String)
  /-- The bindings of a file of environment variables. -/
  file : List Binding

/-- What the names of variables begin with. -/
def variableStart : String := "CPP_TEST_MAINS_"

/-- A name in lower case. -/
def lowered (s : String) : List Char := Text.lower s.toList

/-- Whether a name is that of the variable for a setting. -/
def Field.isVariable (f : Field) (name : String) : Bool :=
  lowered name = lowered (variableStart ++ f.name)

/-- The last value under a name that fits. -/
def lastOf {α : Type} (fits : String → Bool) (l : List (String × α)) : Option α :=
  (l.reverse.find? fun item => fits item.1).map Prod.snd

/-- **The value of a setting**, if a source provides it. -/
def Sources.value? (s : Sources) (f : Field) : Option Datum :=
  (lastOf (· = f.name) s.given).or
    (((lastOf f.isVariable s.environment).or ((lastOf f.isVariable s.file).getD none)).map .text)

/-- The value of a setting after its check; where no source provides one, the default. -/
def Sources.field {α : Type} (s : Sources) (f : Field) (check : Datum → Except Refusal α)
    (standard : α) : Except Refusal α :=
  match s.value? f with
  | some d => check d
  | none => .ok standard

/-- The problem that a refused value makes. -/
def problemOf {α : Type} (f : Field) : Except Refusal α → List Problem
  | .ok _ => []
  | .error r => [⟨f, r⟩]

/-- **The settings that sources provide**, or what is wrong with them. -/
def build (s : Sources) : Except (List Problem) Settings :=
  let framework := s.field .framework checkFramework standard.framework
  let style := s.field .style checkStyle standard.style
  let directory := s.field .directory checkPath standard.directory
  let fileName := s.field .fileName checkFileName standard.fileName
  let logLevel := s.field .logLevel checkLevel standard.logLevel
  let logFile := s.field .logFile checkPath standard.logFile
  match framework, style, directory, fileName, logLevel, logFile with
  | .ok framework, .ok style, .ok directory, .ok fileName, .ok logLevel, .ok logFile =>
      .ok { framework, style, directory, fileName, logLevel, logFile }
  | _, _, _, _, _, _ =>
      .error (problemOf .framework framework ++ problemOf .style style
        ++ problemOf .directory directory ++ problemOf .fileName fileName
        ++ problemOf .logLevel logLevel ++ problemOf .logFile logFile)

/-- An optional text as a value. -/
def optionalText : Option String → Datum
  | some s => .text s
  | none => .null

/-- The value of a setting. -/
def get (s : Settings) : Field → Datum
  | .framework => .text s.framework.name
  | .style => .text s.style.name
  | .directory => optionalText s.directory
  | .fileName => .text s.fileName
  | .logLevel => .text s.logLevel.name
  | .logFile => optionalText s.logFile

/-- All settings by name. -/
def entries (s : Settings) : List (String × Datum) := Field.all.map fun f => (f.name, s.get f)

end Settings

end EntryTemplates
