/-
**What each operation on a library does.**

Every operation that changes a library is described once: what it takes to succeed, the library
afterwards, and the world afterwards.

Main definitions:

* `EntryTemplates.Library.adopt` — the library with a custom template taken over;
* `EntryTemplates.Library.isEligible`, `EntryTemplates.Library.Addable` — files that may describe a
  template, and files that do not stop the opening of a library;
* `EntryTemplates.Library.Outcome` — what becomes of a file;
* `EntryTemplates.Library.tryFile` — the library and the world after a file was tried.

Main results:

* `EntryTemplates.Library.addFile_cases` — **what becomes of a file**;
* `EntryTemplates.Library.create_eq_ok` — **a template is created**;
* `EntryTemplates.Library.create_eq_error` — where creating one fails, the library is as it was.
-/

import EntryTemplates.Library
import EntryTemplates.Proofs.Catalogue
import EntryTemplates.Proofs.Running

set_option relaxedAutoImplicit false
set_option autoImplicit false

namespace EntryTemplates

/-- The world after a template was registered. -/
def World.registered (w : World) (t : Template) : World :=
  w.logged "registry" .debug ("Registered template " ++ t.name ++ " (" ++ t.source ++ ")")

/-- The world after an entry of the part that keeps libraries. -/
def World.told (w : World) (level : LevelName) (message : String) : World :=
  w.logged "template_manager" level message

theorem World.noted_registered (w : World) (t : Template) : w.Noted (w.registered t) :=
  noted_logged _ _ _ _

theorem World.noted_told (w : World) (level : LevelName) (message : String) :
    w.Noted (w.told level message) := noted_logged _ _ _ _

/-- The name of the file that a new template is kept in. -/
def Key.fileName (k : Key) : String := k.framework.name ++ "-" ++ k.style.name ++ ".yaml"

namespace Library

/-! ### Registering -/

theorem run_register (c : Catalogue) (t : Template) (replace : Bool) (w : World) :
    (register c t replace).run.run w =
      if (c.find? t.key).isSome ∧ !replace then (.error (.report (.duplicate t.key)), w)
      else (.ok ⟨Catalogue.put t c.templates⟩, w.registered t) := by
  rw [register, Catalogue.register]
  split <;> rename_i h <;> split at h
  · exact absurd h (by simp)
  · rename_i hfree
    obtain rfl := Except.ok.inj h
    rw [if_neg hfree]
    rfl
  · rename_i htaken
    obtain rfl := Except.error.inj h
    rw [if_pos htaken]
    rfl
  · exact absurd h (by simp)

/-- The library with a custom template taken over. -/
def adopt (l : Library) (t : Template) : Library :=
  { l with
    catalogue := ⟨Catalogue.put t l.catalogue.templates⟩
    custom := if l.custom.contains t.key then l.custom else l.custom ++ [t.key] }

theorem find?_adopt (l : Library) (t : Template) (k : Key) :
    (l.adopt t).catalogue.find? k = if t.key = k then some t else l.catalogue.find? k :=
  Catalogue.find?_put t _ k

theorem mem_custom_adopt (l : Library) (t : Template) (k : Key) :
    k ∈ (l.adopt t).custom ↔ k = t.key ∨ k ∈ l.custom := by
  rw [adopt]
  by_cases h : t.key ∈ l.custom
  · have hcontains : l.custom.contains t.key = true := by simpa using h
    simp only [hcontains, if_true]
    constructor
    · exact Or.inr
    · rintro (rfl | hk)
      · exact h
      · exact hk
  · have hcontains : l.custom.contains t.key = false := by simpa using h
    simp only [hcontains, Bool.false_eq_true, if_false, List.mem_append, List.mem_singleton]
    exact or_comm

/-! ### Files of the directory -/

/-- Whether a path leads to a file that may describe a template. -/
def isEligible (t : Files.Tree) (p : Files.Path) : Bool :=
  match t.inspect p with
  | .ok (some (.file _)) => fileEndings.contains p.suffix
  | _ => false

theorem suffix_of_isEligible {files : Files.Tree} {p : Files.Path} (h : isEligible files p = true) :
    p.suffix ∈ fileEndings := by
  rw [isEligible] at h
  split at h
  · simpa using h
  · exact absurd h (by simp)

/-- A file that does not stop the opening of a library. -/
structure Addable (t : Files.Tree) (p : Files.Path) : Prop where
  inspected : ∃ entry, t.inspect p = .ok entry
  harmless : isEligible t p = true → ∀ e, templateOfFile t p = .error e → e.isFatal = false

/-- What becomes of a file. -/
inductive Outcome where
  | failed (e : Unusable)
  | skipped (t : Template)
  | loaded (t : Template)

namespace Outcome

/-- What becomes of a file in which `read` was found, where there are templates for `custom`. -/
def of (custom : List Key) (read : Except Unusable Template) : Outcome :=
  match read with
  | .error e => .failed e
  | .ok t => if custom.contains t.key then .skipped t else .loaded t

/-- The level of the entry about a file. -/
def level : Outcome → LevelName
  | .failed _ => .warning
  | .skipped _ => .warning
  | .loaded _ => .info

/-- The entry about a file. -/
def message (p : Files.Path) : Outcome → String
  | .failed e => "Failed to load template " ++ p.text ++ ": " ++ e.message
  | .skipped t =>
      "Skipping " ++ p.text ++ ": template " ++ t.name ++ " already provided by another custom file"
  | .loaded t => "Loaded custom template " ++ t.name ++ " from " ++ p.text

/-- The library after a file. -/
def library (l : Library) : Outcome → Library
  | .failed _ => l
  | .skipped _ => l
  | .loaded t => l.adopt t

/-- The world after a file. -/
def world (p : Files.Path) (w : World) (o : Outcome) : World :=
  let w := match o with
    | .loaded t => w.registered t
    | _ => w
  w.told o.level (o.message p)

end Outcome

/-- The library and the world after a file was tried. -/
def tryFile (p : Files.Path) (l : Library) (w : World) : Library × World :=
  if isEligible w.files p then
    let o := Outcome.of l.custom (templateOfFile w.files p)
    (o.library l, o.world p w)
  else (l, w)

theorem run_isTemplateFile (p : Files.Path) (w : World) :
    (isTemplateFile p).run.run w =
      match w.files.inspect p with
      | .error e => (.error (.files e), w)
      | .ok _ => (.ok (isEligible w.files p), w) := by
  rw [isTemplateFile, Work.run_bind, Work.run_files, isEligible]
  cases w.files.inspect p with
  | error e => rfl
  | ok entry =>
      cases entry with
      | none => rfl
      | some e => cases e <;> rfl

/-- A fatal reason is a fault. -/
theorem exists_fault_of_isFatal {e : Unusable} (h : e.isFatal = true) : ∃ f, e = .fault f := by
  cases e with
  | fault f => exact ⟨f, rfl⟩
  | noMapping => simp [Unusable.isFatal] at h
  | missingKey key => simp [Unusable.isFatal] at h
  | notText typeName => simp [Unusable.isFatal] at h

theorem run_addFile_of_error {l : Library} {p : Files.Path} {w : World} {e : Files.Failure}
    (h : w.files.inspect p = .error e) : (l.addFile p).run.run w = (.error (.files e), w) := by
  rw [addFile, Work.run_bind, run_isTemplateFile, h]

theorem run_addFile_of_not_isEligible {l : Library} {p : Files.Path} {w : World}
    {entry : Option Files.Entry} (h : w.files.inspect p = .ok entry)
    (he : isEligible w.files p = false) : (l.addFile p).run.run w = (.ok l, w) := by
  rw [addFile, Work.run_bind, run_isTemplateFile, h, he]
  rfl

theorem run_addFile_of_isFatal {l : Library} {p : Files.Path} {w : World}
    {entry : Option Files.Entry} (h : w.files.inspect p = .ok entry)
    (he : isEligible w.files p = true) {f : Fault}
    (hread : templateOfFile w.files p = .error (.fault f))
    (hfatal : (Unusable.fault f).isFatal = true) :
    (l.addFile p).run.run w = (.error f, w) := by
  rw [addFile, Work.run_bind, run_isTemplateFile, h, he]
  simp only [Bool.not_true, Bool.false_eq_true, if_false]
  rw [Work.run_bind, Work.run_get]
  simp only [hread, hfatal]
  rfl

theorem run_addFile_of_isEligible {l : Library} {p : Files.Path} {w : World}
    {entry : Option Files.Entry} (h : w.files.inspect p = .ok entry)
    (he : isEligible w.files p = true)
    (hharmless : ∀ e, templateOfFile w.files p = .error e → e.isFatal = false) :
    (l.addFile p).run.run w =
      let o := Outcome.of l.custom (templateOfFile w.files p)
      (.ok (o.library l), o.world p w) := by
  rw [addFile, Work.run_bind, run_isTemplateFile, h, he]
  simp only [Bool.not_true, Bool.false_eq_true, if_false]
  rw [Work.run_bind, Work.run_get]
  dsimp only
  cases hread : templateOfFile w.files p with
  | error e =>
      simp only [hharmless e hread]
      rfl
  | ok t =>
      by_cases htaken : l.custom.contains t.key = true
      · simp only [htaken, if_true, Outcome.of]
        rfl
      · simp only [htaken, Bool.false_eq_true, if_false, Outcome.of]
        rw [Work.run_bind, run_register, if_neg (by simp)]
        simp only [Outcome.library, adopt, htaken, Bool.false_eq_true, if_false]
        rfl

/-- **What becomes of a file**: its path cannot be looked at, or what is found in it is fatal, or it
is tried. -/
theorem addFile_cases (l : Library) (p : Files.Path) (w : World) :
    (∃ e, w.files.inspect p = .error e ∧ (l.addFile p).run.run w = (.error (.files e), w)) ∨
    (∃ f, isEligible w.files p = true ∧ templateOfFile w.files p = .error (.fault f) ∧
      (Unusable.fault f).isFatal = true ∧ (l.addFile p).run.run w = (.error f, w)) ∨
    (Addable w.files p ∧
      (l.addFile p).run.run w = (.ok (tryFile p l w).1, (tryFile p l w).2)) := by
  cases hinspect : w.files.inspect p with
  | error e => exact Or.inl ⟨e, rfl, run_addFile_of_error hinspect⟩
  | ok entry =>
      refine Or.inr ?_
      cases he : isEligible w.files p with
      | false =>
          refine Or.inr ⟨⟨⟨entry, hinspect⟩, by simp [he]⟩, ?_⟩
          rw [run_addFile_of_not_isEligible hinspect he, tryFile, he]
          rfl
      | true =>
          by_cases hharmless : ∀ e, templateOfFile w.files p = .error e → e.isFatal = false
          · refine Or.inr ⟨⟨⟨entry, hinspect⟩, fun _ => hharmless⟩, ?_⟩
            rw [run_addFile_of_isEligible hinspect he hharmless, tryFile, he]
            rfl
          · simp only [not_forall, Bool.not_eq_false] at hharmless
            obtain ⟨e, hread, hfatal⟩ := hharmless
            obtain ⟨f, rfl⟩ := exists_fault_of_isFatal hfatal
            exact Or.inl ⟨f, rfl, hread, hfatal, run_addFile_of_isFatal hinspect he hread hfatal⟩

/-- **A file is tried**, unless it stops the opening of the library. -/
theorem addFile_eq_ok {l l' : Library} {p : Files.Path} {w w' : World} :
    (l.addFile p).run.run w = (.ok l', w') ↔
      Addable w.files p ∧ tryFile p l w = (l', w') := by
  rcases addFile_cases l p w with
    ⟨e, hinspect, hrun⟩ | ⟨f, helig, hread, hfatal, hrun⟩ | ⟨haddable, hrun⟩
  · rw [hrun]
    refine iff_of_false Work.error_ne_ok ?_
    rintro ⟨⟨⟨entry, hentry⟩, -⟩, -⟩
    simp [hinspect] at hentry
  · rw [hrun]
    refine iff_of_false Work.error_ne_ok ?_
    rintro ⟨haddable, -⟩
    have := haddable.harmless helig _ hread
    simp [hfatal] at this
  · rw [hrun, Work.ok_eq_ok]
    simp [haddable, Prod.ext_iff]

/-! ### What entries of the journal leave alone -/

section Same

variable {changed : List Files.Location} {t t' : Files.Tree} {p : Files.Path}

/-- A file at the same place is read as before, unless it was changed. -/
theorem templateOfFile_of_same (hdenied : t'.denied = t.denied)
    (h : Files.Tree.SamePlace changed (t.locate p) (t'.locate p))
    (hp : ∀ location bytes, t.locate p = .ok (.taken location (.file bytes)) →
      location ∉ changed) : templateOfFile t' p = templateOfFile t p := by
  rw [templateOfFile, templateOfFile, h.read hdenied hp]

theorem isEligible_of_same (h : Files.Tree.SamePlace changed (t.locate p) (t'.locate p)) :
    isEligible t' p = isEligible t p := by
  rw [isEligible, isEligible]
  rcases h with ⟨e, ht, ht'⟩ | ⟨l, ht, ht'⟩ | ⟨l, ht, ht'⟩ | ⟨l, bytes, bytes', ht, ht', -⟩ <;>
    simp only [Files.Tree.inspect, ht, ht']

theorem addable_of_same (hdenied : t'.denied = t.denied)
    (h : Files.Tree.SamePlace changed (t.locate p) (t'.locate p))
    (hp : isEligible t p = true → ∀ location bytes,
      t.locate p = .ok (.taken location (.file bytes)) → location ∉ changed) :
    Addable t' p ↔ Addable t p := by
  have hinspected : (∃ entry, t'.inspect p = .ok entry) ↔ ∃ entry, t.inspect p = .ok entry := by
    rcases h with ⟨e, ht, ht'⟩ | ⟨l, ht, ht'⟩ | ⟨l, ht, ht'⟩ | ⟨l, bytes, bytes', ht, ht', -⟩ <;>
      simp only [Files.Tree.inspect, ht, ht', Except.ok.injEq, exists_eq']
  have helig := isEligible_of_same h
  constructor
  · rintro ⟨hentry, hharmless⟩
    refine ⟨hinspected.1 hentry, fun he => ?_⟩
    rw [← templateOfFile_of_same hdenied h (hp he)]
    exact hharmless (helig.trans he)
  · rintro ⟨hentry, hharmless⟩
    refine ⟨hinspected.2 hentry, fun he => ?_⟩
    rw [templateOfFile_of_same hdenied h (hp (helig.symm.trans he))]
    exact hharmless (helig.symm.trans he)

end Same

section Noted

variable {w w' : World} {p : Files.Path}

/-- A file that is no log file describes the same template. -/
theorem templateOfFile_of_noted (h : w.Noted w') (hp : ¬ w.LogsTo p) :
    templateOfFile w'.files p = templateOfFile w.files p :=
  templateOfFile_of_same h.files.denied (h.files.locate_cases p) fun location bytes hlocate hlocation =>
    hp ⟨location, hlocation, bytes, hlocate⟩

theorem isEligible_of_noted (h : w.Noted w') (p : Files.Path) :
    isEligible w'.files p = isEligible w.files p := isEligible_of_same (h.files.locate_cases p)

theorem addable_of_noted (h : w.Noted w') (hp : isEligible w.files p = true → ¬ w.LogsTo p) :
    Addable w'.files p ↔ Addable w.files p :=
  addable_of_same h.files.denied (h.files.locate_cases p) fun he location bytes hlocate hlocation =>
    hp he ⟨location, hlocation, bytes, hlocate⟩

end Noted

theorem noted_world (p : Files.Path) (w : World) (o : Outcome) : w.Noted (o.world p w) := by
  cases o with
  | failed e => exact World.noted_told _ _ _
  | skipped t => exact World.noted_told _ _ _
  | loaded t => exact (World.noted_registered w t).trans (World.noted_told _ _ _)

theorem noted_tryFile (p : Files.Path) (l : Library) (w : World) : w.Noted (tryFile p l w).2 := by
  rw [tryFile]
  split
  · exact noted_world _ _ _
  · exact .refl w

/-! ### New templates -/

/-- A new template, kept in the file that `source` names. -/
def newTemplate (k : Key) (content description author source : String) : Template :=
  { framework := k.framework, style := k.style, content, description, author, source }

/-- The world after a new template was written to its file. -/
def created (w : World) (written : Files.Tree) (t : Template) (p : Files.Path) : World :=
  ({ w with files := written }.registered t).told .info
    ("Created custom template " ++ t.name ++ " at " ++ p.text)

theorem run_parseName {α : Type} [Nameable α] (a : Argument) (w : World) :
    (parseName a : Work α).run.run w = (a.parse.mapError NoMember.fault, w) := by
  rw [parseName]
  cases (a.parse : Except NoMember α) <;> rfl

theorem parseName_eq_ok {α : Type} [Nameable α] {a : Argument} {x : α} {w w' : World} :
    (parseName a : Work α).run.run w = (.ok x, w') ↔ a.parse = .ok x ∧ w = w' := by
  rw [run_parseName]
  cases (a.parse : Except NoMember α) with
  | ok y => rw [Except.mapError, Work.ok_eq_ok, Except.ok.injEq]
  | error n =>
      refine iff_of_false Work.error_ne_ok ?_
      simp

/-! ### What is done with a library -/

namespace Act

variable {α β : Type}

theorem run_bind (x : Act α) (f : α → Act β) (scene : Scene) :
    (x >>= f).run.run scene =
      match x.run.run scene with
      | (.ok a, scene') => (f a).run.run scene'
      | (.error e, scene') => (.error e, scene') := by
  simp only [ExceptT.run_bind, StateT.run_bind]
  rcases x.run.run scene with ⟨e | a, scene'⟩ <;> rfl

theorem run_get (scene : Scene) : (get : Act Scene).run.run scene = (.ok scene, scene) := rfl

/-- Work leaves the library alone, whether it fails or not. -/
theorem run_ofWork (work : Work α) (l : Library) (w : World) :
    (ofWork work).run.run ⟨l, w⟩ = ((work.run.run w).1, ⟨l, (work.run.run w).2⟩) := by
  rw [ofWork, run_bind, run_get]
  dsimp only
  rcases work.run.run w with ⟨e | a, w'⟩ <;> rfl

/-- What was returned, and the library and the world after it. -/
theorem ok_eq_ok {a b : α} {scene scene' : Scene} :
    ((.ok a, scene) : Id (Except Fault α × Scene)) = (.ok b, scene') ↔ a = b ∧ scene = scene' := by
  constructor
  · intro h
    obtain ⟨ha, hscene⟩ := Prod.mk.inj h
    exact ⟨Except.ok.inj ha, hscene⟩
  · rintro ⟨rfl, rfl⟩
    rfl

theorem error_ne_ok {e : Fault} {b : α} {scene scene' : Scene} :
    ((.error e, scene) : Id (Except Fault α × Scene)) ≠ (.ok b, scene') := by
  intro h
  cases h

end Act

/-- A template is always taken into the catalogue in place of another one. -/
theorem run_replaceInCatalogue (t : Template) (l : Library) (w : World) :
    (replaceInCatalogue t).run.run ⟨l, w⟩ =
      (.ok (), ⟨{ l with catalogue := ⟨Catalogue.put t l.catalogue.templates⟩ },
        w.registered t⟩) := by
  have hregister : l.catalogue.register t true = .ok ⟨Catalogue.put t l.catalogue.templates⟩ := by
    rw [Catalogue.register, if_neg (by simp)]
  rw [replaceInCatalogue, Act.run_bind, Act.run_get]
  simp only [hregister]
  rfl

/-- A new template checked, written to its file and taken over: what is done once its framework and
its style are known. -/
def keep (folder p : Files.Path) (t : Template) : Act Files.Path := do
  if t.problems ≠ [] then throw (.report (.invalid t))
  Act.ofWork (Work.makeDirectories folder)
  Act.ofWork (Work.changeFiles fun files => files.write p (Document.write (fileEntries t)).toUTF8)
  replaceInCatalogue t
  Act.change fun l => l.noteCustom t.key
  Act.ofWork (log .info ("Created custom template " ++ t.name ++ " at " ++ p.text))
  return p

/-- **What keeping a template does, step by step**: the library is changed only once the file is
written, and nothing can fail after that. -/
theorem run_keep (folder p : Files.Path) (t : Template) (l : Library) (w : World) :
    (keep folder p t).run.run ⟨l, w⟩ =
      if t.problems ≠ [] then (.error (.report (.invalid t)), ⟨l, w⟩)
      else
        match w.files.makeDirectories folder with
        | (made, .error e) => (.error (.files e), ⟨l, { w with files := made }⟩)
        | (made, .ok ()) =>
            match made.write p (Document.write (fileEntries t)).toUTF8 with
            | .error e => (.error (.files e), ⟨l, { w with files := made }⟩)
            | .ok written => (.ok p, ⟨l.adopt t, created w written t p⟩) := by
  rw [keep]
  split
  · rfl
  · rw [Act.run_bind, Act.run_ofWork, Work.run_makeDirectories]
    rcases w.files.makeDirectories folder with ⟨made, e | ⟨⟩⟩
    · rfl
    · simp only [Except.mapError]
      rw [Act.run_bind, Act.run_ofWork, Work.run_changeFiles]
      dsimp only
      cases made.write p (Document.write (fileEntries t)).toUTF8 with
      | error e => rfl
      | ok written =>
          dsimp only
          rw [Act.run_bind, run_replaceInCatalogue]
          rfl

theorem keep_eq_ok {l l' : Library} {folder p p' : Files.Path} {t : Template} {w w' : World} :
    (keep folder p t).run.run ⟨l, w⟩ = (.ok p', ⟨l', w'⟩) ↔
      ∃ made written, t.problems = [] ∧ w.files.makeDirectories folder = (made, .ok ()) ∧
        made.write p (Document.write (fileEntries t)).toUTF8 = .ok written ∧
        l' = l.adopt t ∧ p' = p ∧ w' = created w written t p := by
  rw [run_keep]
  by_cases hvalid : t.problems = []
  · rw [if_neg (by simpa using hvalid)]
    rcases hmade : w.files.makeDirectories folder with ⟨made, e | ⟨⟩⟩
    · refine iff_of_false Act.error_ne_ok ?_
      rintro ⟨made', written, -, hmade', -⟩
      simp at hmade'
    · dsimp only
      cases hwrite : made.write p (Document.write (fileEntries t)).toUTF8 with
      | error e =>
          refine iff_of_false Act.error_ne_ok ?_
          rintro ⟨made', written, -, hmade', hwrite', -⟩
          obtain rfl := (Prod.mk.inj hmade').1
          exact absurd (hwrite.symm.trans hwrite') (by simp)
      | ok written =>
          rw [Act.ok_eq_ok, Scene.mk.injEq]
          constructor
          · rintro ⟨rfl, rfl, rfl⟩
            exact ⟨made, written, hvalid, rfl, hwrite, rfl, rfl, rfl⟩
          · rintro ⟨made', written', -, hmade', hwrite', rfl, rfl, rfl⟩
            obtain rfl := (Prod.mk.inj hmade').1
            obtain rfl := Except.ok.inj (hwrite.symm.trans hwrite')
            exact ⟨rfl, rfl, rfl⟩
  · rw [if_pos hvalid]
    refine iff_of_false Act.error_ne_ok ?_
    rintro ⟨made, written, h, -⟩
    exact hvalid h

/-- **What creating a template does, step by step**: the names are read first. -/
theorem run_create {l : Library} {directory : String} (hdirectory : l.directory = some directory)
    (hne : directory ≠ "") (frameworkName styleName : Argument)
    (content description author : String) (w : World) :
    (create frameworkName styleName content description author).run.run ⟨l, w⟩ =
      match (frameworkName.parse : Except NoMember Framework),
          (styleName.parse : Except NoMember Style) with
      | .error n, _ => (.error n.fault, ⟨l, w⟩)
      | .ok _, .error n => (.error n.fault, ⟨l, w⟩)
      | .ok framework, .ok style =>
          let p := (Files.Path.ofString directory).child (Key.mk framework style).fileName
          (keep (Files.Path.ofString directory) p
            (newTemplate ⟨framework, style⟩ content description author p.text)).run.run ⟨l, w⟩ := by
  rw [create, Act.run_bind, Act.run_get]
  dsimp only
  split <;> rename_i h
  · exact absurd (hdirectory.symm.trans h) (by simp)
  · exact absurd (Option.some.inj (hdirectory.symm.trans h)) hne
  · obtain rfl := Option.some.inj (hdirectory.symm.trans h)
    rw [Act.run_bind, Act.run_ofWork, run_parseName]
    cases (frameworkName.parse : Except NoMember Framework) with
    | error n => rfl
    | ok framework =>
        dsimp only [Except.mapError]
        rw [Act.run_bind, Act.run_ofWork, run_parseName]
        cases (styleName.parse : Except NoMember Style) with
        | error n => rfl
        | ok style => rfl

/-- Without a directory no template is created. -/
theorem run_create_of_nowhere {l : Library} (hdirectory : ∀ directory, l.directory = some directory →
    directory = "") (frameworkName styleName : Argument) (content description author : String)
    (w : World) :
    (create frameworkName styleName content description author).run.run ⟨l, w⟩ =
      (.error (.report .noDirectory), ⟨l, w⟩) := by
  rw [create, Act.run_bind, Act.run_get]
  dsimp only
  split <;> rename_i h
  · rfl
  · rfl
  · rename_i hne
    exact absurd (hdirectory _ h) hne

/-- Keeping a template fails before the library was changed. -/
theorem keep_eq_error {l : Library} {folder p : Files.Path} {t : Template} {w : World} {e : Fault}
    {scene : Scene} (h : (keep folder p t).run.run ⟨l, w⟩ = (.error e, scene)) :
    scene = ⟨l, w⟩ ∨ scene = ⟨l, { w with files := (w.files.makeDirectories folder).1 }⟩ := by
  rw [run_keep] at h
  split at h
  · exact Or.inl (Prod.mk.inj h).2.symm
  · rcases hmade : w.files.makeDirectories folder with ⟨made, e' | ⟨⟩⟩
    · rw [hmade] at h
      exact Or.inr (Prod.mk.inj h).2.symm
    · rw [hmade] at h
      dsimp only at h
      split at h
      · exact Or.inr (Prod.mk.inj h).2.symm
      · cases h

/-- **Where creating a template fails**, the library is as it was, and so is the world, apart from
directories that were made. -/
theorem create_eq_error {l : Library} {frameworkName styleName : Argument}
    {content description author : String} {w : World} {e : Fault} {scene : Scene}
    (h : (create frameworkName styleName content description author).run.run ⟨l, w⟩ =
      (.error e, scene)) :
    scene = ⟨l, w⟩ ∨
      ∃ folder, scene = ⟨l, { w with files := (w.files.makeDirectories folder).1 }⟩ := by
  by_cases hdirectory : ∃ directory, l.directory = some directory ∧ directory ≠ ""
  · obtain ⟨directory, hdirectory, hne⟩ := hdirectory
    rw [run_create hdirectory hne] at h
    split at h
    · exact Or.inl (Prod.mk.inj h).2.symm
    · exact Or.inl (Prod.mk.inj h).2.symm
    · exact (keep_eq_error h).imp_right fun hscene => ⟨_, hscene⟩
  · rw [run_create_of_nowhere fun directory h => by_contra fun hne => hdirectory ⟨directory, h, hne⟩]
      at h
    exact Or.inl (Prod.mk.inj h).2.symm

/-- **A template is created**: its texts are right, its file is written, and the library takes it
over. -/
theorem create_eq_ok {l l' : Library} {frameworkName styleName : Argument}
    {content description author : String} {p : Files.Path} {w w' : World} :
    (create frameworkName styleName content description author).run.run ⟨l, w⟩ =
        (.ok p, ⟨l', w'⟩) ↔
      ∃ (directory : String) (k : Key) (t : Template) (made written : Files.Tree),
        (l.directory = some directory ∧ directory ≠ "") ∧
        (frameworkName.parse = .ok k.framework ∧ styleName.parse = .ok k.style) ∧
        p = (Files.Path.ofString directory).child k.fileName ∧
        t = newTemplate k content description author p.text ∧ t.problems = [] ∧
        w.files.makeDirectories (Files.Path.ofString directory) = (made, .ok ()) ∧
        made.write p (Document.write (fileEntries t)).toUTF8 = .ok written ∧
        l' = l.adopt t ∧ w' = created w written t p := by
  by_cases hdirectory : ∃ directory, l.directory = some directory ∧ directory ≠ ""
  · obtain ⟨directory, hdirectory, hne⟩ := hdirectory
    rw [run_create hdirectory hne]
    constructor
    · intro h
      split at h
      · exact absurd h Act.error_ne_ok
      · exact absurd h Act.error_ne_ok
      · rename_i framework style hframework hstyle
        obtain ⟨made, written, hvalid, hmade, hwritten, rfl, rfl, rfl⟩ := keep_eq_ok.1 h
        exact ⟨directory, ⟨framework, style⟩, _, made, written, ⟨hdirectory, hne⟩,
          ⟨hframework, hstyle⟩, rfl, rfl, hvalid, hmade, hwritten, rfl, rfl⟩
    · rintro ⟨d, k, t, made, written, ⟨hd, -⟩, ⟨hframework, hstyle⟩, rfl, rfl, hvalid, hmade,
        hwritten, rfl, rfl⟩
      obtain rfl := Option.some.inj (hdirectory.symm.trans hd)
      simp only [hframework, hstyle]
      exact keep_eq_ok.2 ⟨made, written, hvalid, hmade, hwritten, rfl, rfl, rfl⟩
  · rw [run_create_of_nowhere fun directory h => by_contra fun hne => hdirectory ⟨directory, h, hne⟩]
    refine iff_of_false Act.error_ne_ok ?_
    rintro ⟨directory, k, t, made, written, h, -⟩
    exact hdirectory ⟨directory, h⟩

end Library

end EntryTemplates
