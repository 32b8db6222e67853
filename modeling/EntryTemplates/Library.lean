/-
**Libraries of templates.**

A library offers the built-in templates and, in their place, the custom ones that it finds in a
directory.  Each YAML file of the directory describes one template; of several files for the same
framework and style the one whose name comes first counts.  Files that cannot be used are noted in
the journal.

Main definitions:

* `EntryTemplates.Library` — a catalogue with defaults and a directory for custom templates;
* `EntryTemplates.Library.templateOf` — the template that a file describes;
* `EntryTemplates.Library.openWith` — a library with the custom templates of its directory;
* `EntryTemplates.Library.Act` — what is done with a library, which changes as it goes along;
* `EntryTemplates.Library.create` — a new custom template, kept in a file of the directory.
-/

import EntryTemplates.Builtin
import EntryTemplates.Catalogue
import EntryTemplates.Document.Load
import EntryTemplates.Document.Write
import EntryTemplates.Settings
import EntryTemplates.World

set_option relaxedAutoImplicit false
set_option autoImplicit false

namespace EntryTemplates

/-- A catalogue with defaults and a directory for custom templates. -/
structure Library where
  catalogue : Catalogue
  /-- Where custom templates are; an empty text means nowhere. -/
  directory : Option String
  framework : Framework
  style : Style
  /-- The keys of the custom templates. -/
  custom : List Key

namespace Library

/-! ### Template files -/

/-- Why a file describes no template. -/
inductive Unusable where
  | fault (f : Fault)
  /-- The document is no mapping. -/
  | noMapping
  /-- A key is missing. -/
  | missingKey (key : String)
  /-- The template itself is no text. -/
  | notText (typeName : String)

/-- The report on a file that describes no template. -/
def Unusable.message : Unusable → String
  | .fault f => f.message
  | .noMapping => "template file must contain a mapping"
  | .missingKey key => Text.quotedString key
  | .notText typeName => "'template' must be a string, got " ++ typeName

/-- Whether the reason stops the loading of all files. -/
def Unusable.isFatal : Unusable → Bool
  | .fault (.document e) => e.isFatal
  | _ => false

/-- What a template file says: its value under a key, if there is one. -/
abbrev Description := String → Option Datum

/-- The value under a key that must be there. -/
def required (d : Description) (key : String) : Except Unusable Datum :=
  match d key with
  | some v => .ok v
  | none => .error (.missingKey key)

/-- The member of a vocabulary under a key that must be there. -/
def requiredName {α : Type} [Nameable α] (d : Description) (key : String) :
    Except Unusable α := do
  (Argument.plain (← required d key)).parse.mapError fun e => .fault e.fault

/-- The text of a value, which must have one. -/
def textOf (v : Datum) : Except Unusable String := v.asText.mapError fun n => .fault (.tooLong n)

/-- The text of a value with its halves. -/
def looseOf : Datum → Except Unusable Text.Loose
  | .loose t => .ok t
  | v => (textOf v).map .ofString

/-- The text of a value that must be a text. -/
def contentOf : Datum → Except Unusable Text.Loose
  | .text s => .ok s
  | .loose t => .ok t
  | v => .error (.notText v.typeName)

/-- The text of the value under a key; an empty value is an empty text. -/
def optionalText (d : Description) (key : String) : Except Unusable Text.Loose :=
  match d key with
  | some v => if v.isTrue then looseOf v else .ok ""
  | none => .ok ""

/-- The text of the value under a key, or a default. -/
def textOr (d : Description) (key standard : String) : Except Unusable String :=
  match d key with
  | some v => textOf v
  | none => .ok standard

/-- The template that a description means, checked. -/
def templateOfDescription (d : Description) (source : String) : Except Unusable Template := do
  let content ← contentOf (← required d "template")
  let framework ← requiredName d "framework"
  let style ← requiredName d "style"
  let description ← optionalText d "description"
  let author ← optionalText d "author"
  let version ← textOr d "version" "1.0.0"
  let t : Template :=
    { framework, style, source, version
      content := content.shape
      contentHalves := content.halves
      description := description.shape
      descriptionHalves := description.halves
      author := author.shape }
  if t.problems = [] then .ok t else .error (.fault (.report (.invalid t)))

/-- **The template that the text of a file describes.** -/
def templateOf (text source : String) : Except Unusable Template :=
  match Document.load text with
  | .error e => .error (.fault (.document e))
  | .ok loaded =>
      match loaded.entries? with
      | none => .error .noMapping
      | some entries =>
          let description : Description := fun key =>
            (entries.find? fun (k, _) => Document.sameKey k (.text key)).map fun (_, n) =>
              loaded.value n
          templateOfDescription description source

/-- Why a document cannot be read the bytes of which are no text: what stands before them may be
wrong already. -/
def undecodable (bytes : ByteArray) (e : Text.DecodeError) : Fault :=
  let before := Text.decodedBefore bytes
  let blocks := before.take (Document.readBefore before.length)
  match Document.loadPart blocks with
  | .error (.malformed .character) =>
      if blocks.all Document.isAllowed then .encoding e else .document (.malformed .character)
  | .error f => .document f
  | .ok _ => .encoding e

/-- The template that a file describes. -/
def templateOfFile (t : Files.Tree) (p : Files.Path) : Except Unusable Template :=
  match t.read p with
  | .error e => .error (.fault (.files e))
  | .ok bytes =>
      match Text.decodeStream bytes with
      | .error e => .error (.fault (undecodable bytes e))
      | .ok text => templateOf text p.text

/-! ### Opening a library -/

/-- An entry of the part that keeps catalogues. -/
def logRegistered (t : Template) : Work Unit :=
  Work.log "registry" .debug ("Registered template " ++ t.name ++ " (" ++ t.source ++ ")")

/-- A template registered in a catalogue. -/
def register (c : Catalogue) (t : Template) (replace : Bool) : Work Catalogue :=
  match c.register t replace with
  | .ok c => do
      logRegistered t
      return c
  | .error r => throw (.report r)

/-- An entry of the part that keeps libraries. -/
def log (level : LevelName) (message : String) : Work Unit :=
  Work.log "template_manager" level message

/-- The catalogue with the built-in templates. -/
def builtins : Work Catalogue :=
  Key.all.foldlM (fun c k => register c (Builtin.template k.framework k.style) false) .empty

/-- The endings of template files. -/
def fileEndings : List String := [".yaml", ".yml"]

/-- Whether a path leads to a file that may describe a template. -/
def isTemplateFile (p : Files.Path) : Work Bool := do
  match ← Work.files fun t => t.inspect p with
  | some (.file _) => return fileEndings.contains p.suffix
  | _ => return false

/-- The library with the template of a file, if the file can be used. -/
def addFile (l : Library) (p : Files.Path) : Work Library := do
  if !(← isTemplateFile p) then return l
  match templateOfFile (← get).files p with
  | .error e =>
      match e.isFatal, e with
      | true, .fault f => throw f
      | _, _ =>
          log .warning ("Failed to load template " ++ p.text ++ ": " ++ e.message)
          return l
  | .ok t =>
      if l.custom.contains t.key then
        log .warning ("Skipping " ++ p.text ++ ": template " ++ t.name
          ++ " already provided by another custom file")
        return l
      else
        let catalogue ← register l.catalogue t true
        log .info ("Loaded custom template " ++ t.name ++ " from " ++ p.text)
        return { l with catalogue, custom := l.custom ++ [t.key] }

/-- The library with the custom templates of its directory. -/
def addCustom (l : Library) : Work Library := do
  match l.directory with
  | none => return l
  | some "" => return l
  | some directory =>
      let p := Files.Path.ofString directory
      if ← Work.files fun t => t.isDirectory p then
        let names ← Work.files fun t => t.list p
        names.foldlM (fun l name => l.addFile (p.child name)) l
      else
        log .warning ("Custom templates directory does not exist: " ++ p.text)
        return l

/-- What a library is opened with. -/
structure Options where
  directory : Option String
  /-- The default framework; nothing means that of the settings. -/
  framework : Argument
  style : Argument

/-- An argument as a member, where an argument that is not given stands for another one. -/
def parseOr {α : Type} [Nameable α] (a : Argument) (m : Member) : Work α :=
  Work.ofExcept ((a.orMember m).parse.mapError NoMember.fault)

/-- **A library with the custom templates of its directory.** -/
def openWith (o : Options) (s : Settings) : Work Library := do
  let framework ← parseOr o.framework (.framework s.framework)
  let style ← parseOr o.style (.style s.style)
  let catalogue ← builtins
  addCustom { catalogue, directory := o.directory, framework, style, custom := [] }

/-- The library that is shared: opened when it is asked for the first time. -/
def shared (known : Option Library) (s : Settings) : Work Library :=
  match known with
  | some l => pure l
  | none => openWith ⟨s.directory, .missing, .missing⟩ s

/-! ### Asking a library -/

/-- The template for a framework and a style, where the library's defaults stand for what is not
given. -/
def getDefault (l : Library) (framework style : Argument) : Except Fault Template :=
  l.catalogue.get (framework.orMember (.framework l.framework)) (style.orMember (.style l.style))

/-- The template for tests that do or do not need a `main` of their own. -/
def select (l : Library) (framework : Argument) (needsMain : Bool) : Except Fault Template :=
  l.catalogue.get (framework.orMember (.framework l.framework))
    (.member (.style (.ofNeed needsMain)))

/-- Whether the template for a framework and a style is a custom one. -/
def isCustom (l : Library) (framework style : Argument) : Except Fault Bool :=
  (l.catalogue.get framework style).map fun t => l.custom.contains t.key

/-- The problems of every template by its name. -/
def validateAll (l : Library) : List (String × List String) :=
  l.catalogue.templates.map fun t => (t.name, t.problemTexts)

/-! ### New templates -/

/-- A library and the world around it. -/
structure Scene where
  library : Library
  world : World

/-- What is done with a library and may fail.  Both the library and the world change as it goes
along, and a failure undoes nothing. -/
abbrev Act (α : Type) := ExceptT Fault (StateM Scene) α

namespace Act

/-- Work in the world, which leaves the library alone. -/
def ofWork {α : Type} (work : Work α) : Act α := do
  let scene ← get
  let (result, world) := work.run.run scene.world
  set { scene with world }
  match result with
  | .ok a => pure a
  | .error e => throw e

/-- The library changed. -/
def change (f : Library → Library) : Act Unit :=
  modify fun scene => { scene with library := f scene.library }

end Act

/-- The entries of a template's file. -/
def fileEntries (t : Template) : List (String × String) :=
  [("framework", t.framework.name), ("style", t.style.name), ("description", t.description),
    ("author", t.author), ("version", t.version), ("template", t.content)]

/-- The member that an argument means. -/
def parseName {α : Type} [Nameable α] (a : Argument) : Work α :=
  Work.ofExcept (a.parse.mapError NoMember.fault)

/-- A template taken into the catalogue in place of the one under its key. -/
def replaceInCatalogue (t : Template) : Act Unit := do
  match (← get).library.catalogue.register t true with
  | .ok catalogue => Act.change fun l => { l with catalogue }
  | .error r => throw (.report r)
  Act.ofWork (logRegistered t)

/-- The library with a key noted as that of a custom template. -/
def noteCustom (l : Library) (k : Key) : Library :=
  { l with custom := if l.custom.contains k then l.custom else l.custom ++ [k] }

/-- **A new custom template**, kept in a file of the library's directory.  Gives the file's path. -/
def create (frameworkName styleName : Argument) (content description author : String) :
    Act Files.Path := do
  match (← get).library.directory with
  | none => throw (.report .noDirectory)
  | some "" => throw (.report .noDirectory)
  | some directory =>
      let framework : Framework ← Act.ofWork (parseName frameworkName)
      let style : Style ← Act.ofWork (parseName styleName)
      let folder := Files.Path.ofString directory
      let p := folder.child (framework.name ++ "-" ++ style.name ++ ".yaml")
      let t : Template := { framework, style, content, description, author, source := p.text }
      if t.problems ≠ [] then throw (.report (.invalid t))
      Act.ofWork (Work.makeDirectories folder)
      Act.ofWork (Work.changeFiles fun files => files.write p (Document.write (fileEntries t)).toUTF8)
      replaceInCatalogue t
      Act.change fun l => l.noteCustom t.key
      Act.ofWork (log .info ("Created custom template " ++ t.name ++ " at " ++ p.text))
      return p

end Library

end EntryTemplates
