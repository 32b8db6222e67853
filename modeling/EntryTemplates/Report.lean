/-
**Reports on what went wrong with templates.**

A report carries a message, and a cause with the names that belong to it.  An optional text that is
empty counts as left out.

Main definitions:

* `EntryTemplates.Cause` — what a report is about;
* `EntryTemplates.Report` — a cause and a message;
* `EntryTemplates.Report.details` — the names that belong to a report, each under its title;
* `EntryTemplates.Cause.lineage` — the titles of a cause, from the narrowest to the widest.
-/

import EntryTemplates.Argument
import EntryTemplates.Template

set_option relaxedAutoImplicit false
set_option autoImplicit false

namespace EntryTemplates

/-- What a report is about. -/
inductive Cause where
  /-- Anything, with details of any kind. -/
  | general (details : List (String × Datum))
  /-- The configuration. -/
  | configuration (key : Option String)
  /-- A template. -/
  | template (name : Option String)
  /-- A template that is not there. -/
  | notFound (framework style : Option String)
  /-- A template that is there already. -/
  | duplicate (name : Option String)
  /-- A template that cannot be rendered with a context. -/
  | rendering (name : Option String) (contextKeys : List String)
  /-- A template with problems. -/
  | validation (name : Option String) (problems : List String)
  /-- A template that cannot be written. -/
  | writing (name path reason : Option String)
  deriving Inhabited

/-- What reports on a cause are called. -/
def Cause.title : Cause → String
  | .general _ => "CppTestMainsError"
  | .configuration _ => "ConfigurationError"
  | .template _ => "TemplateError"
  | .notFound .. => "TemplateNotFoundError"
  | .duplicate _ => "DuplicateTemplateError"
  | .rendering .. => "TemplateRenderError"
  | .validation .. => "TemplateValidationError"
  | .writing .. => "TemplateWriteError"

/-- Whether a report is about a template. -/
def Cause.isAboutTemplate : Cause → Bool
  | .general _ => false
  | .configuration _ => false
  | _ => true

/-- The titles of a cause, from the narrowest to the widest. -/
def Cause.lineage (c : Cause) : List String :=
  match c with
  | .general _ => [c.title]
  | .template _ => [c.title, (Cause.general []).title]
  | c =>
      if c.isAboutTemplate then [c.title, (Cause.template none).title, (Cause.general []).title]
      else [c.title, (Cause.general []).title]

/-- The problems that a report lists, if its kind lists problems at all. -/
def Cause.problems? : Cause → Option (List String)
  | .validation _ problems => some problems
  | _ => none

/-- A text under its title, unless it is left out or empty. -/
def named (title : String) : Option String → List (String × Datum)
  | some "" => []
  | some s => [(title, .text s)]
  | none => []

/-- Texts under their title, unless there are none. -/
def namedList (title : String) (texts : List String) : List (String × Datum) :=
  if texts = [] then [] else [(title, .list (texts.map Datum.text))]

/-- The name of a pair, if both parts are given. -/
def pairName? : Option String → Option String → Option String
  | some f, some s => if f = "" ∨ s = "" then none else some (f ++ "/" ++ s)
  | _, _ => none

/-- The names that belong to a cause, each under its title. -/
def Cause.details : Cause → List (String × Datum)
  | .general details => details
  | .configuration key => named "config_key" key
  | .template name => named "template_name" name
  | .notFound framework style =>
      named "template_name" (pairName? framework style) ++ named "framework" framework
        ++ named "style" style
  | .duplicate name => named "template_name" name
  | .rendering name keys => named "template_name" name ++ namedList "context_keys" keys
  | .validation name problems => named "template_name" name ++ namedList "problems" problems
  | .writing name path reason =>
      named "template_name" name ++ named "path" path ++ named "reason" reason

/-- A cause and a message. -/
structure Report where
  cause : Cause
  message : String
  deriving Inhabited

namespace Report

/-- What a report is called. -/
def title (r : Report) : String := r.cause.title

/-- The names that belong to a report, each under its title. -/
def details (r : Report) : List (String × Datum) := r.cause.details

/-- A template that is not there, by the names asked for. -/
def notFound (framework style : String) : Report :=
  ⟨.notFound (some framework) (some style), "Template not found: " ++ framework ++ "/" ++ style⟩

/-- A template that is there already. -/
def duplicate (k : Key) : Report :=
  ⟨.duplicate (some k.name), "Template already registered: " ++ k.name⟩

/-- A template with problems. -/
def invalid (t : Template) : Report :=
  ⟨.validation (some t.name) t.problemTexts,
    "Invalid template " ++ t.name ++ ": " ++ "; ".intercalate t.problemTexts⟩

/-- No directory for custom templates. -/
def noDirectory : Report := ⟨.configuration (some "custom_templates_dir"), "未配置自定义模板目录"⟩

end Report

end EntryTemplates
