/-
**Writing a template into a directory.**

Main definitions:

* `EntryTemplates.checkName` — a file name is one name, not a path;
* `EntryTemplates.writtenText` — the text that is written of a template;
* `EntryTemplates.writeTemplate` — a template written into a directory.
-/

import EntryTemplates.Catalogue
import EntryTemplates.Settings
import EntryTemplates.World

set_option relaxedAutoImplicit false
set_option autoImplicit false

namespace EntryTemplates

/-- Why a file name is refused. -/
def refusedName (name message reason : String) : Report :=
  ⟨.writing none (some name) (some reason), message⟩

/-- **A file name is one name, not a path.** -/
def checkName (name : String) : Except Report Unit :=
  if name = "" ∨ name = "." ∨ name = ".." then .error (refusedName name "文件名不能为空" "empty")
  else if '\x00' ∈ name.toList then .error (refusedName name "文件名包含空字节" "null_byte")
  else if '/' ∈ name.toList ∨ '\\' ∈ name.toList then
    .error (refusedName name ("文件名不能包含路径: " ++ name) "traversal")
  else .ok ()

/-- A template that cannot be written to a path. -/
def unwritten (t : Template) (p : Files.Path) (message reason : String) : Fault :=
  .report ⟨.writing (some t.name) (some p.text) (some reason), message⟩

/-- What is to be written, and where. -/
structure Order where
  framework : Argument
  style : Argument
  /-- The directory, which must exist. -/
  directory : String
  /-- The name of the file; an empty one stands for that of the settings. -/
  fileName : Option String
  /-- Whether an existing file may be replaced. -/
  overwrite : Bool
  context : Render.Context

/-- The name of the file to be written. -/
def Order.name (o : Order) (s : Settings) : String :=
  match o.fileName with
  | none => s.fileName
  | some "" => s.fileName
  | some name => name

/-- **The text that is written of a template**: what it makes with a context.  Without a context its
content is written as it is, so that it must not hold a half. -/
def writtenText (t : Template) (context : Render.Context) : Except Fault String :=
  if context.isEmpty then t.looseContent.whole.mapError .unencodable
  else Catalogue.renderTemplate t context

/-- A report as a failure of work. -/
def report {α : Type} : Except Report α → Work α
  | .ok a => pure a
  | .error r => throw (.report r)

/-- **A template written into a directory**, and the path of its file. -/
def writeTemplate (c : Catalogue) (s : Settings) (o : Order) : Work Files.Path := do
  let name := o.name s
  report (checkName name)
  let t ← Work.ofExcept (c.get o.framework o.style)
  let directory := Files.Path.ofString o.directory
  if !(← Work.files fun files => files.isDirectory directory) then
    throw (unwritten t directory ("目标目录不存在: " ++ directory.text) "missing_directory")
  let target := directory.child name
  if (← Work.files fun files => files.contains target) && !o.overwrite then
    throw (unwritten t target ("文件已存在: " ++ target.text) "exists")
  let content ← Work.ofExcept (writtenText t o.context)
  match (← get).files.write target content.toUTF8 with
  | .error e => throw (unwritten t target ("写入失败: " ++ e.message) "io_error")
  | .ok files => Work.setFiles files
  Work.log "writer" .info ("Wrote " ++ t.name ++ " to " ++ target.text)
  return target

end EntryTemplates
