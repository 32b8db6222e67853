/-
**The entry file of a new project, by any names.**

Main definitions:

* `EntryTemplates.EntryFile.language` — the language that an argument means, where `c++` stands for
  `cpp`;
* `EntryTemplates.EntryFile.content` — the text of a first program;
* `EntryTemplates.EntryFile.name` — the name of the entry file.
-/

import EntryTemplates.Fault

set_option relaxedAutoImplicit false
set_option autoImplicit false

namespace EntryTemplates.EntryFile

/-- A language that is not known. -/
def unknownLanguage (text : String) : Report :=
  ⟨.notFound none none, "No main template for language: " ++ text⟩

/-- The language that a text means. -/
def languageOfText (text : String) : Except Fault Language :=
  match (Vocabulary.exact (Language.alias (normalized text)) : Except UnknownName Language) with
  | .ok l => .ok l
  | .error _ => .error (.report (unknownLanguage text))

/-- The language that an argument means. -/
def language (a : Argument) : Except Fault Language :=
  match a with
  | .member (.language l) => .ok l
  | a => a.asText.mapError .tooLong >>= languageOfText

/-- The text of a first program. -/
def content (a : Argument) : Except Fault String := (language a).map Language.mainFile

/-- The kind of output that an argument means. -/
def outputKind (a : Argument) : Except Fault OutputKind :=
  a.parse.mapError NoMember.fault

/-- **The name of the entry file** for a project, a language and a kind of output. -/
def name (project languageName kindName : Argument) : Except Fault String := do
  let l ← language languageName
  let k ← outputKind kindName
  -- the project's name is looked at for a library only
  let stem ← match k with
    | .executable => pure none
    | .library => if project.isTrue then (project.asText.mapError .tooLong).map some else pure none
  match entryFileName stem l k with
  | some file => .ok file
  | none => .error .namelessProject

end EntryTemplates.EntryFile
