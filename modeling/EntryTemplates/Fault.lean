/-
**Everything that can go wrong.**

Main definitions:

* `EntryTemplates.Fault` — what can go wrong;
* `EntryTemplates.Fault.message` — the report on it;
* `EntryTemplates.NoMember.fault` — an argument that means nothing as a fault.
-/

import EntryTemplates.Console.Markup
import EntryTemplates.Document.Failure
import EntryTemplates.Files.Tree
import EntryTemplates.Render.Failure
import EntryTemplates.Report
import EntryTemplates.Settings.Problem
import EntryTemplates.Text.Utf8

set_option relaxedAutoImplicit false
set_option autoImplicit false

namespace EntryTemplates

/-- What can go wrong. -/
inductive Fault where
  /-- A template is missing, doubled, wrong or cannot be written. -/
  | report (r : Report)
  /-- A name is unknown. -/
  | unknownName (u : UnknownName)
  /-- A number is too long to be written. -/
  | tooLong (n : Number.TooLong)
  /-- A library project has no name. -/
  | namelessProject
  /-- The files refuse an operation. -/
  | files (e : Files.Failure)
  /-- Bytes are no text. -/
  | encoding (e : Text.DecodeError)
  /-- A document cannot be read. -/
  | document (e : Document.Failure)
  /-- Settings are refused. -/
  | settings (problems : List Settings.Problem)
  /-- Computing a value failed while a template was rendered. -/
  | rendering (kind : Render.Mishap) (message : String)
  /-- A text that is to be written has no bytes. -/
  | unencodable (e : Text.EncodeError)
  /-- A text cannot be shown on a console. -/
  | console (p : Console.Problem)
  deriving Inhabited

/-- The report on what went wrong. -/
def Fault.message : Fault → String
  | .report r => r.message
  | .unknownName u => u.message
  | .tooLong n => n.message
  | .namelessProject => "库项目需要项目名称"
  | .files e => e.message
  | .encoding e => e.message
  | .document e => e.message
  | .settings problems => "\n".intercalate (problems.map fun p => p.refusal.message)
  | .rendering _ message => message
  | .unencodable e => e.message
  | .console p => p.message

/-- What an argument that means no member leads to. -/
def NoMember.fault : NoMember → Fault
  | .unknown u => .unknownName u
  | .tooLong n => .tooLong n

end EntryTemplates
