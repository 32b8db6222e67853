/-
**Levels of log entries.**

A level is an integer; some have names.

Main definitions:

* `EntryTemplates.LevelName` — the names of levels;
* `EntryTemplates.LevelName.level` — the level of a name;
* `EntryTemplates.levelText` — how a level is written.
-/

import EntryTemplates.Vocabulary

set_option relaxedAutoImplicit false
set_option autoImplicit false

namespace EntryTemplates

/-- The names of levels. -/
inductive LevelName where
  | critical
  | fatal
  | error
  | warning
  | warn
  | info
  | debug
  | notSet
  deriving DecidableEq, Repr

instance : Vocabulary LevelName where
  all := [.critical, .fatal, .error, .warning, .warn, .info, .debug, .notSet]
  name
    | .critical => "CRITICAL"
    | .fatal => "FATAL"
    | .error => "ERROR"
    | .warning => "WARNING"
    | .warn => "WARN"
    | .info => "INFO"
    | .debug => "DEBUG"
    | .notSet => "NOTSET"
  title := "level"

namespace LevelName

/-- A name as it is written. -/
def name (n : LevelName) : String := Vocabulary.name n

/-- The level of a name. -/
def level : LevelName → Int
  | .critical => 50
  | .fatal => 50
  | .error => 40
  | .warning => 30
  | .warn => 30
  | .info => 20
  | .debug => 10
  | .notSet => 0

/-- The name that a text means in any case, with any white space around it. -/
def read? (s : String) : Option LevelName :=
  Vocabulary.find? (String.ofList (Text.upper (Text.trim s.toList)))

end LevelName

/-- How a level is written: by the first name it has, or by its number. -/
def levelText (level : Int) : String :=
  match (Vocabulary.all : List LevelName).find? fun n => n.level = level with
  | some n => n.name
  | none => s!"Level {level}"

end EntryTemplates
