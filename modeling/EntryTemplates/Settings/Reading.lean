/-
**Reading settings from the working directory.**

Main definitions:

* `EntryTemplates.Settings.readEnvFile` — the bindings of the file of environment variables;
* `EntryTemplates.Settings.ofSurroundings` — the settings that the environment and that file make.
-/

import EntryTemplates.Settings
import EntryTemplates.World

set_option relaxedAutoImplicit false
set_option autoImplicit false

namespace EntryTemplates.Settings

/-- The name of the file of environment variables. -/
def envFileName : String := ".env"

/-- The bindings of the file of environment variables, if there is one. -/
def readEnvFile (environment : List (String × String)) : Work (List Binding) := do
  let p := Files.Path.ofString envFileName
  match ← Work.files fun t => t.inspect p with
  | some (.file _) =>
      match Text.decode (← Work.files fun t => t.read p) with
      | .ok text => return expand environment (readBindings text.toList)
      | .error e => throw (.encoding e)
  | _ => return []

/-- The name of the variable for a setting. -/
def Field.variable (f : Field) : String :=
  String.ofList (Text.upper (variableStart ++ f.name).toList)

/-- **The settings that the environment and the file of environment variables make.** -/
def ofSurroundings (environment : List (String × String)) : Work Settings := do
  match build ⟨[], environment, ← readEnvFile environment⟩ with
  | .ok s => return s
  | .error problems => throw (.settings problems)

end EntryTemplates.Settings
