/-
**How the writing of a template ends.**

An order ends with the path of its file, or with a report that there is no such template or that it
cannot be written.  Obstacles in the tree are reported: a directory that is missing, a file in its
place, a directory in the place of the file, a null character, a file that must not be written to.
But where the system refuses to look at the path of the directory or of the file, its refusal is
passed on, and so is what keeps a report or a text from being made: a number in place of a name that
is too long to be shown, and a halved character in the template.

Main definitions:

* `EntryTemplates.Order.IsSettled` — a path, or one of the two reports;
* `EntryTemplates.Order.Placed` — an order that comes to its text;
* `EntryTemplates.Order.Escapes` — the faults that are passed on;
* `EntryTemplates.Order.Deliverable` — what it takes for the file to be written.

Main results:

* `EntryTemplates.Order.prepare_of_escapes`, `EntryTemplates.Order.prepare_cases` — how the checks
  end;
* `EntryTemplates.Order.Ready.deliverable`, `EntryTemplates.Order.Deliverable.written` — where a file
  that has passed the checks can be written;
* `EntryTemplates.writing_settles` — **how the writing of a template ends**;
* `EntryTemplates.overlong_directory_escapes` — a directory whose name is too long.
-/

import EntryTemplates.Proofs.Catalogue.Outcomes
import EntryTemplates.Proofs.Files.Refusals
import EntryTemplates.Proofs.Writing

set_option relaxedAutoImplicit false
set_option autoImplicit false

namespace EntryTemplates

open Files (Location)
open Files.Tree (contains_eq_error_iff isDirectory_eq_error_iff)

namespace Order

/-- A path, or a report that there is no such template or that it cannot be written. -/
inductive IsSettled : Except Fault Files.Path → Prop where
  | written (p : Files.Path) : IsSettled (.ok p)
  | notFound (framework style : String) :
      IsSettled (.error (.report (.notFound framework style)))
  | unwritten (template path reason : Option String) (message : String) :
      IsSettled (.error (.report ⟨.writing template path reason, message⟩))

variable (o : Order) (c : Catalogue) (s : Settings) (files : Files.Tree)

/-- The path of the directory of an order. -/
def folder : Files.Path := .ofString o.directory

/-- The path of the file of an order. -/
def target : Files.Path := o.folder.child (o.name s)

/-- A name that a file may have, and a template that is there. -/
structure Known (t : Template) : Prop where
  name : checkName (o.name s) = .ok ()
  found : c.get o.framework o.style = .ok t

/-- An order that comes to its text: its directory is there, and the place of its file can be looked
at and is free, unless what stands there may be replaced. -/
structure Placed (t : Template) (location : Location) : Prop extends o.Known c s t where
  folder : files.IsAt o.folder location
  seen : ∀ cause, ¬ files.Refuses (o.target s) cause
  free : files.at? (location ++ [o.name s]) = none ∨ o.overwrite = true

/-- The faults that are passed on: a number in place of a name is too long for a report; the system
refuses to look at the path of the directory, or at that of the file in a directory that is there; a
character of the text is halved. -/
inductive Escapes : Fault → Prop where
  | unlabelled {n : Number.TooLong} (hname : checkName (o.name s) = .ok ())
      (h : Catalogue.Unlabelled o.framework o.style n) : Escapes (.tooLong n)
  | folder {t : Template} {cause : Files.Cause} (hknown : o.Known c s t)
      (hrefuses : files.Refuses o.folder cause) : Escapes (.files (.system cause o.folder.text))
  | target {t : Template} {location : Location} {cause : Files.Cause} (hknown : o.Known c s t)
      (hfolder : files.IsAt o.folder location) (hrefuses : files.Refuses (o.target s) cause) :
      Escapes (.files (.system cause (o.target s).text))
  | halved {t : Template} {location : Location} {e : Text.EncodeError}
      (hplaced : o.Placed c s files t location) (hhalved : t.looseContent.whole = .error e) :
      Escapes (.unencodable e)

/-- What it takes for the file of an order to be written: the order comes to its text, which has
bytes, and a file may be added to the directory, or the one that stands there may be written to. -/
structure Deliverable (t : Template) (location : Location) : Prop
    extends o.Placed c s files t location where
  whole : t.contentHalves = []
  allowed : files.at? (location ++ [o.name s]) = none ∧ ¬ files.Denies .write location ∨
    (∃ bytes, files.at? (location ++ [o.name s]) = some (.file bytes)) ∧
      ¬ files.Denies .write (location ++ [o.name s])

variable {o c s files} {t : Template} {location : Location}

/-! ### The checks -/

/-- Names that are refused are reported. -/
theorem isSettled_of_checkName {name : String} {r : Report} (h : checkName name = .error r) :
    IsSettled (.error (.report r)) := by
  rw [checkName] at h
  split at h
  · obtain rfl := Except.error.inj h
    exact .unwritten _ _ _ _
  · split at h
    · obtain rfl := Except.error.inj h
      exact .unwritten _ _ _ _
    · split at h
      · obtain rfl := Except.error.inj h
        exact .unwritten _ _ _ _
      · cases h

theorem writtenText_nil (t : Template) :
    writtenText t [] = t.looseContent.whole.mapError .unencodable := rfl

/-- The place of an order's file can be looked at. -/
theorem Placed.contains (h : o.Placed c s files t location) :
    files.contains (o.target s) = .ok (files.at? (location ++ [o.name s])).isSome :=
  h.folder.contains_child (checkName_eq_ok.1 h.name).1 h.seen

/-- An order that comes to its text has passed all other checks. -/
theorem Placed.prepare (h : o.Placed c s files t location) (hcontext : o.context = []) :
    o.prepare c s files = (t.looseContent.whole.mapError .unencodable).map fun content =>
      ⟨t, o.target s, content⟩ := by
  have hthere := Files.Tree.isDirectory_of_isAt h.folder
  have htaken := h.contains
  have hfree : ((files.at? (location ++ [o.name s])).isSome && !o.overwrite) = false := by
    rcases h.free with hnone | hoverwrite
    · simp [hnone]
    · simp [hoverwrite]
  rw [target, Order.folder] at htaken
  rw [Order.folder] at hthere
  simp only [Order.prepare, h.name, h.found, hthere, htaken, hfree, hcontext, writtenText_nil,
    Except.mapError, Except.ok_bind, Bool.false_eq_true, if_false]
  cases t.looseContent.whole <;> rfl

/-- **Where a fault escapes, the checks end with it.** -/
theorem prepare_of_escapes {e : Fault} (hcontext : o.context = []) (h : o.Escapes c s files e) :
    o.prepare c s files = .error e := by
  cases h with
  | unlabelled hname h =>
      rw [prepare, hname, Catalogue.get_of_unlabelled h]
      rfl
  | folder hknown hrefuses =>
      have hrefused := isDirectory_eq_error_iff.2 ⟨_, hrefuses, rfl⟩
      rw [folder] at hrefused ⊢
      rw [prepare, hknown.name, hknown.found]
      simp only [Except.mapError, Except.ok_bind, hrefused]
      rfl
  | target hknown hfolder hrefuses =>
      have hrefused := contains_eq_error_iff.2 ⟨_, hrefuses, rfl⟩
      have hthere := Files.Tree.isDirectory_of_isAt hfolder
      rw [target, folder] at hrefused ⊢
      rw [folder] at hthere
      rw [prepare, hknown.name, hknown.found]
      simp only [Except.mapError, Except.ok_bind, hthere, hrefused]
      rfl
  | halved hplaced hhalved =>
      rw [hplaced.prepare hcontext, hhalved]
      rfl

/-- A directory that is missing is reported. -/
theorem Known.prepare_of_missing (h : o.Known c s t)
    (hdirectory : files.isDirectory o.folder = .ok false) :
    ∃ r, o.prepare c s files = .error (.report r) ∧ IsSettled (.error (.report r)) := by
  rw [folder] at hdirectory
  refine ⟨_, ?_, .unwritten (some t.name) (some o.folder.text) (some "missing_directory")
    ("目标目录不存在: " ++ o.folder.text)⟩
  rw [prepare, h.name, h.found]
  simp only [Except.mapError, Except.ok_bind, hdirectory]
  rfl

/-- So is what stands in the place of the file and must not be replaced. -/
theorem Known.prepare_of_taken (h : o.Known c s t) (hfolder : files.IsAt o.folder location)
    (hseen : ∀ cause, ¬ files.Refuses (o.target s) cause)
    (htaken : ¬ (files.at? (location ++ [o.name s]) = none ∨ o.overwrite = true)) :
    ∃ r, o.prepare c s files = .error (.report r) ∧ IsSettled (.error (.report r)) := by
  have hthere := Files.Tree.isDirectory_of_isAt hfolder
  have hcontains : files.contains (o.target s) = _ :=
    hfolder.contains_child (checkName_eq_ok.1 h.name).1 hseen
  have htrue : ((files.at? (location ++ [o.name s])).isSome && !o.overwrite) = true := by
    rw [not_or, ← Ne, ← Option.isSome_iff_ne_none] at htaken
    simp [htaken]
  rw [target, folder] at hcontains
  rw [folder] at hthere
  refine ⟨_, ?_, .unwritten (some t.name) (some (o.target s).text) (some "exists")
    ("文件已存在: " ++ (o.target s).text)⟩
  rw [prepare, h.name, h.found]
  simp only [Except.mapError, Except.ok_bind, hthere, hcontains, htrue, if_true]
  rfl

/-- **How the checks of an order without a context end**: with a report, with a fault that escapes,
or with a text that is ready. -/
theorem prepare_cases (hcontext : o.context = []) :
    (∃ r, o.prepare c s files = .error (.report r) ∧ IsSettled (.error (.report r))) ∨
      (∃ e, o.Escapes c s files e) ∨ ∃ d, o.prepare c s files = .ok d := by
  cases hname : checkName (o.name s) with
  | error r => exact Or.inl ⟨r, by rw [prepare, hname]; rfl, isSettled_of_checkName hname⟩
  | ok u =>
  cases hfound : c.get o.framework o.style with
  | error e =>
      rcases Catalogue.get_eq_error hfound with ⟨f, g, rfl⟩ | ⟨n, hn, rfl⟩
      · exact Or.inl ⟨_, by rw [prepare, hname, hfound]; rfl, .notFound f g⟩
      · exact Or.inr (Or.inl ⟨_, .unlabelled hname hn⟩)
  | ok t =>
  have hknown : o.Known c s t := ⟨hname, hfound⟩
  cases hdirectory : files.isDirectory o.folder with
  | error e =>
      obtain ⟨cause, hrefuses, -⟩ := isDirectory_eq_error_iff.1 hdirectory
      exact Or.inr (Or.inl ⟨_, .folder hknown hrefuses⟩)
  | ok there =>
      cases there with
      | false => exact Or.inl (hknown.prepare_of_missing hdirectory)
      | true =>
          obtain ⟨location, hfolder⟩ := Files.Tree.isAt_of_isDirectory hdirectory
          by_cases hseen : ∃ cause, files.Refuses (o.target s) cause
          · obtain ⟨cause, hrefuses⟩ := hseen
            exact Or.inr (Or.inl ⟨_, .target hknown hfolder hrefuses⟩)
          rw [not_exists] at hseen
          by_cases hfree : files.at? (location ++ [o.name s]) = none ∨ o.overwrite = true
          · have hplaced : o.Placed c s files t location :=
              { hknown with folder := hfolder, seen := hseen, free := hfree }
            cases hwhole : t.looseContent.whole with
            | error e => exact Or.inr (Or.inl ⟨_, .halved hplaced hwhole⟩)
            | ok content =>
                refine Or.inr (Or.inr ⟨⟨t, o.target s, content⟩, ?_⟩)
                rw [hplaced.prepare hcontext, hwhole]
                rfl
          · exact Or.inl (hknown.prepare_of_taken hfolder hseen hfree)

/-! ### Writing what has passed them -/

/-- What has passed the checks and can be written stands in a directory that has a place for it. -/
theorem Ready.deliverable {d : Delivery} {files' : Files.Tree} (hcontext : o.context = [])
    (h : o.Ready c s files d) (hwrite : files.write d.target d.content.toUTF8 = .ok files') :
    ∃ location, o.Deliverable c s files d.template location := by
  obtain ⟨hname, hfound, ⟨location, hfolder⟩, htarget, ⟨taken, htaken, hallowed⟩, hcontent⟩ := h
  change d.target = o.target s at htarget
  rw [htarget] at hwrite htaken
  have hseen : ∀ cause, ¬ files.Refuses (o.target s) cause := fun cause hrefuses => by
    rw [contains_eq_error_iff.2 ⟨cause, hrefuses, rfl⟩] at htaken
    cases htaken
  have hat : files.contains (o.target s) = .ok (files.at? (location ++ [o.name s])).isSome :=
    hfolder.contains_child hname.1 hseen
  obtain rfl := Except.ok.inj (htaken.symm.trans hat)
  have hlocate : files.locate (o.target s) = _ := hfolder.locate_child hname.1 hseen
  refine ⟨location, ?_⟩
  refine { name := checkName_eq_ok.2 hname, found := hfound, folder := hfolder, seen := hseen,
           free := ?_, whole := (writtenText_eq_ok.1 hcontent).2 hcontext, allowed := ?_ }
  · cases hat : files.at? (location ++ [o.name s]) with
    | none => exact Or.inl rfl
    | some e => exact Or.inr (hallowed (by rw [hat]; rfl))
  · rw [Files.Tree.write, hlocate] at hwrite
    cases hat : files.at? (location ++ [o.name s]) with
    | none =>
        simp only [hat] at hwrite
        obtain ⟨hdenied, -⟩ := Files.Tree.add_eq_ok.1 hwrite
        rw [List.dropLast_concat] at hdenied
        exact Or.inl ⟨rfl, hdenied⟩
    | some e =>
        simp only [hat] at hwrite
        cases e with
        | directory => cases hwrite
        | file bytes =>
            refine Or.inr ⟨⟨bytes, rfl⟩, fun hdenied => ?_⟩
            simp only [hdenied, if_true] at hwrite
            cases hwrite

/-- An order whose directory has a place for its file passes the checks and is written. -/
theorem Deliverable.written (hcontext : o.context = [])
    (h : o.Deliverable c s files t location) :
    ∃ d files', o.prepare c s files = .ok d ∧
      files.write d.target d.content.toUTF8 = .ok files' := by
  have hwhole : t.looseContent.whole = .ok t.content :=
    Text.Loose.whole_eq_ok.2 ⟨h.whole, rfl⟩
  have hlocate : files.locate (o.target s) = _ :=
    h.folder.locate_child (checkName_eq_ok.1 h.name).1 h.seen
  refine ⟨⟨t, o.target s, t.content⟩, files.put (location ++ [o.name s]) (.file t.content.toUTF8),
    ?_, ?_⟩
  · rw [h.prepare hcontext, hwhole]
    rfl
  · rw [Files.Tree.write, hlocate]
    -- the place is free, or a file stands there that may be replaced
    rcases h.allowed with ⟨hnone, hallowed⟩ | ⟨⟨bytes, hfile⟩, hallowed⟩
    · rw [hnone]
      refine Files.Tree.add_eq_ok.2 ⟨?_, rfl⟩
      rwa [List.dropLast_concat]
    · rw [hfile]
      exact if_neg hallowed

/-- And its file is written. -/
theorem Deliverable.run {w : World} (hcontext : o.context = [])
    (h : o.Deliverable c s w.files t location) :
    ∃ w', (writeTemplate c s o).run.run w = (.ok (o.target s), w') := by
  obtain ⟨d, files, hprepare, hwrite⟩ := h.written hcontext
  have htarget : d.target = o.target s := (prepare_eq_ok.1 hprepare).target
  refine ⟨d.written w files, ?_⟩
  rw [run_writeTemplate, hprepare]
  dsimp only
  rw [d.run_write, hwrite, htarget]

end Order

/-! ### The end of an order -/

/-- **How the writing of a template ends**, if no context is given.  It ends with a path or with one
of the two reports, unless one of a few faults escapes: then it ends with that.  It ends with a path
exactly if the directory has a place for the file, which may be written to, and the text has
bytes. -/
theorem writing_settles (c : Catalogue) (s : Settings) (o : Order) (w : World)
    (hcontext : o.context = []) :
    (Order.IsSettled ((writeTemplate c s o).run.run w).1 ↔ ∀ e, ¬ o.Escapes c s w.files e) ∧
    (∀ e, o.Escapes c s w.files e → ((writeTemplate c s o).run.run w).1 = .error e) ∧
    ((∃ p, ((writeTemplate c s o).run.run w).1 = .ok p) ↔
      ∃ t location, o.Deliverable c s w.files t location) := by
  have hescapes : ∀ e, o.Escapes c s w.files e →
      ((writeTemplate c s o).run.run w).1 = .error e := by
    intro e he
    rw [run_writeTemplate, Order.prepare_of_escapes hcontext he]
  refine ⟨⟨fun hsettled e he => ?_, fun hnone => ?_⟩, hescapes, fun ⟨p, hp⟩ => ?_, ?_⟩
  · rw [hescapes e he] at hsettled
    cases he <;> cases hsettled
  · rw [run_writeTemplate]
    rcases Order.prepare_cases hcontext with ⟨r, hprepare, hr⟩ | ⟨e, he⟩ | ⟨d, hprepare⟩
    · rw [hprepare]
      exact hr
    · exact absurd he (hnone e)
    · rw [hprepare]
      dsimp only
      rw [d.run_write]
      cases w.files.write d.target d.content.toUTF8 with
      | error e => exact .unwritten _ _ _ _
      | ok files => exact .written d.target
  · rw [run_writeTemplate] at hp
    cases hprepare : o.prepare c s w.files with
    | error e =>
        rw [hprepare] at hp
        cases hp
    | ok d =>
        rw [hprepare] at hp
        dsimp only at hp
        rw [d.run_write] at hp
        cases hwrite : w.files.write d.target d.content.toUTF8 with
        | error e =>
            rw [hwrite] at hp
            cases hp
        | ok files => exact ⟨_, (Order.prepare_eq_ok.1 hprepare).deliverable hcontext hwrite⟩
  · rintro ⟨t, location, hdeliverable⟩
    obtain ⟨w', hrun⟩ := hdeliverable.run hcontext
    exact ⟨_, congrArg Prod.fst hrun⟩

theorem checkName_plain : checkName "main.cpp" = .ok () := checkName_eq_ok.2 (by decide)

theorem found_plain : plainCatalogue.get plainOrder.framework plainOrder.style =
    .ok { framework := .catch2, style := .autoMain, content := "int x;\n" } :=
  Catalogue.get_eq_ok.2 ⟨⟨.catch2, .autoMain⟩, ⟨rfl, rfl⟩, rfl⟩

/-- In a directory that is there and has a place for it a file is written. -/
theorem writing_settles_plain :
    plainOrder.context = [] ∧
      ∃ p, ((writeTemplate plainCatalogue .standard plainOrder).run.run loggedStart).1 = .ok p := by
  have hfolder : loggedStart.files.IsAt plainOrder.folder ["work", "out"] := by
    rw [Files.Tree.IsAt]
    decide +kernel
  have htarget : loggedStart.files.locate (plainOrder.target .standard) =
      .ok (.free ["work", "out", "main.cpp"]) := by decide +kernel
  have hnone : loggedStart.files.at? (["work", "out"] ++ [plainOrder.name .standard]) = none := by
    decide +kernel
  have hdeliverable : plainOrder.Deliverable plainCatalogue .standard loggedStart.files _
      ["work", "out"] :=
    { name := checkName_plain
      found := found_plain
      folder := hfolder
      seen := Files.Tree.not_refuses_of_locate htarget
      free := Or.inl hnone
      whole := rfl
      allowed := Or.inl ⟨hnone, List.not_mem_nil⟩ }
  exact ⟨rfl, (writing_settles plainCatalogue .standard plainOrder loggedStart rfl).2.2.2
    ⟨_, _, hdeliverable⟩⟩

/-- A name of so many letters. -/
def repeated (n : Nat) : String := String.ofList (List.replicate n 'a')

theorem mem_toList_repeated {n : Nat} {c : Char} : c ∈ (repeated n).toList ↔ n ≠ 0 ∧ c = 'a' := by
  rw [repeated, String.toList_ofList, List.mem_replicate]

theorem utf8ByteSize_repeated (n : Nat) : (repeated n).utf8ByteSize = n := by
  rw [repeated, String.utf8ByteSize_ofList]
  induction n with
  | zero => rfl
  | succ n ih => rw [List.replicate_succ, String.utf8Len_cons, ih]; rfl

theorem isName_repeated {n : Nat} (h : n ≠ 0) : Files.IsName (repeated n) := by
  have ha : 'a' ∈ (repeated n).toList := mem_toList_repeated.2 ⟨h, rfl⟩
  refine ⟨fun heq => ?_, fun heq => ?_, fun heq => ?_, fun hmem => ?_, fun hmem => ?_⟩
  · exact absurd (heq ▸ ha) (by decide)
  · exact absurd (heq ▸ ha) (by decide)
  · exact absurd (heq ▸ ha) (by decide)
  · exact absurd (mem_toList_repeated.1 hmem).2 (by decide)
  · exact absurd (mem_toList_repeated.1 hmem).2 (by decide)

/-- The order of a template into a directory whose name is too long. -/
def longOrder : Order := { plainOrder with directory := repeated 256 }

/-- **A directory whose name is too long** is not reported as missing. -/
theorem overlong_directory_escapes :
    longOrder.context = [] ∧
      ((writeTemplate plainCatalogue .standard longOrder).run.run loggedStart).1 =
        .error (.files (.system .nameTooLong (repeated 256))) ∧
      ¬ Order.IsSettled
        ((writeTemplate plainCatalogue .standard longOrder).run.run loggedStart).1 := by
  have hname : Files.IsName (repeated 256) := isName_repeated (by decide)
  have hfolder : longOrder.folder = ⟨"", [repeated 256]⟩ := Files.Path.ofString_of_isName hname
  have hnull : Files.Tree.hasNull longOrder.folder = false := by
    rw [hfolder, Files.Tree.hasNull, List.any_cons]
    simpa using hname.noNull
  have htext : longOrder.folder.text = repeated 256 := by
    rw [hfolder, Files.Path.text, if_neg (by simp), String.intercalate_singleton]
    exact String.empty_append
  have hlong : Files.Tree.nameLimit < (repeated 256).utf8ByteSize := by
    rw [utf8ByteSize_repeated]
    decide
  have hshort : longOrder.folder.text.utf8ByteSize ≤ Files.Tree.pathLimit := by
    rw [htext, utf8ByteSize_repeated]
    decide
  -- the name is come upon at once, in the working directory
  have hrefuses : loggedStart.files.Refuses longOrder.folder .nameTooLong := by
    refine .way ⟨hnull, hshort, fun _ => List.not_mem_nil⟩ ?_
    rw [hfolder]
    exact ⟨[], repeated 256, [], _, rfl, .stop, .long List.not_mem_nil hlong⟩
  have hknown : longOrder.Known plainCatalogue .standard _ := ⟨checkName_plain, found_plain⟩
  have hescapes : ((writeTemplate plainCatalogue .standard longOrder).run.run loggedStart).1 =
      .error (.files (.system .nameTooLong (repeated 256))) := by
    rw [run_writeTemplate, Order.prepare_of_escapes (o := longOrder) rfl (.folder hknown hrefuses),
      htext]
  refine ⟨rfl, hescapes, ?_⟩
  rw [hescapes]
  intro hsettled
  cases hsettled

end EntryTemplates
