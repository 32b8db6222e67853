/-
**What work does.**

Work is run in a world; it returns a result or a fault, and the world after it.  Each step of it is
described by one equation, so that longer work is taken apart step by step.

Main definitions:

* `EntryTemplates.World.record`, `EntryTemplates.World.logged` — the world after an entry of the
  journal;
* `EntryTemplates.World.said` — what a part of the library has entered in the journal;
* `EntryTemplates.World.LogsTo` — a path leads to a log file;
* `EntryTemplates.World.Noted` — nothing but the journal and its log files has changed.

Main results:

* `EntryTemplates.Work.bind_eq_ok` — **work that returns has returned at every step**;
* `EntryTemplates.World.noted_record` — **an entry changes nothing but the journal and its log
  files**.
-/

import EntryTemplates.Proofs.Except
import EntryTemplates.Proofs.Files.Walk
import EntryTemplates.Proofs.Journal
import EntryTemplates.World

set_option relaxedAutoImplicit false
set_option autoImplicit false

namespace EntryTemplates

/-! ### Entries of the journal -/

namespace World

/-- The world before anything was done: an empty working directory and a new journal. -/
def start : World := ⟨.empty, .start, ""⟩

/-- The world after an entry of the journal. -/
def record (w : World) (r : Record) : World :=
  let known := w.journal.know r.source
  let journal := known.accept r
  if known.keeps r then { w with journal, files := journal.writeRecord w.stamp r w.files }
  else { w with journal }

/-- The world after an entry of a part of the library. -/
def logged (w : World) (part : String) (level : LevelName) (message : String) : World :=
  w.record ⟨Journal.sourceOf (some part), level.level, message⟩

/-- What a part of the library has entered in the journal, its first entry first. -/
def said (w : World) (part : String) : List (Int × String) :=
  (w.journal.records.reverse.filter fun r => r.source = Journal.sourceOf (some part)).map
    fun r => (r.level, r.message)

theorem records_record (w : World) {r : Record} (h : (w.journal.know r.source).keeps r = true) :
    (w.record r).journal.records = r :: w.journal.records := by
  have hknow : (w.journal.know r.source).records = w.journal.records := by
    rw [Journal.know]
    split <;> rfl
  rw [record]
  simp only [Journal.accept, if_pos h, hknow]

/-- An entry of a part of the library is kept, unless its level is too low. -/
theorem keeps_of_part (j : Journal) {part : String} (hpart : Journal.IsHeard (some part))
    {level : Int} (hlevel : Journal.leastLevel ≤ level) (message : String) :
    j.keeps ⟨Journal.sourceOf (some part), level, message⟩ = true := by
  simp [Journal.keeps, hlevel, Journal.reaches_sourceOf j hpart]

/-- An entry is the last one of its part. -/
theorem said_logged (w : World) {part : String} (hpart : Journal.IsHeard (some part))
    {level : LevelName} (message : String) (hlevel : Journal.leastLevel ≤ level.level) :
    (w.logged part level message).said part = w.said part ++ [(level.level, message)] := by
  rw [said, logged, records_record w (keeps_of_part _ hpart hlevel message), List.reverse_cons,
    List.filter_append, List.map_append]
  simp [said]

/-- An entry is none of another part. -/
theorem said_logged_of_ne (w : World) {part other : String} (hpart : Journal.IsHeard (some part))
    {level : LevelName} (message : String) (hlevel : Journal.leastLevel ≤ level.level)
    (h : Journal.sourceOf (some part) ≠ Journal.sourceOf (some other)) :
    (w.logged part level message).said other = w.said other := by
  rw [said, logged, records_record w (keeps_of_part _ hpart hlevel message), List.reverse_cons,
    List.filter_append, List.map_append]
  simp [said, h]

/-- The locations of the log files. -/
def logLocations (w : World) : List Files.Location := w.journal.files.map LogFile.location

/-- A path leads to a log file. -/
def LogsTo (w : World) (p : Files.Path) : Prop :=
  ∃ location ∈ w.logLocations, ∃ bytes, w.files.locate p = .ok (.taken location (.file bytes))

theorem journal_files (j : Journal) (r : Record) :
    ((j.know r.source).accept r).files = j.files := by
  rw [Journal.accept, Journal.know]
  split <;> split <;> rfl

@[simp] theorem logLocations_record (w : World) (r : Record) :
    (w.record r).logLocations = w.logLocations := by
  rw [record, logLocations, logLocations]
  split <;> exact congrArg _ (journal_files w.journal r)

theorem sameBut_writeRecord {changed : List Files.Location} {files : List LogFile}
    (hfiles : ∀ f ∈ files, f.location ∈ changed) (stamp : String) (r : Record) (t : Files.Tree) :
    Files.Tree.SameBut changed t (files.foldl (fun t f =>
      if f.level ≤ r.level then t.append f.location (Journal.line stamp r).toUTF8 else t) t) := by
  -- the log files are written to one after the other
  induction files generalizing t with
  | nil => exact .refl _ _
  | cons f files ih =>
      rw [List.foldl_cons]
      have hrest := ih fun f hf => hfiles f (List.mem_cons_of_mem _ hf)
      split
      · exact (Files.Tree.SameBut.append (hfiles f (by simp)) t _).trans (hrest _)
      · exact hrest t

/-- **An entry changes nothing but log files.** -/
theorem sameBut_record (w : World) (r : Record) :
    Files.Tree.SameBut w.logLocations w.files (w.record r).files := by
  rw [record]
  split
  · refine sameBut_writeRecord (fun f hf => ?_) w.stamp r w.files
    rw [journal_files] at hf
    exact List.mem_map_of_mem hf
  · exact .refl _ _

/-- Without log files an entry changes no file at all. -/
theorem files_record (w : World) (r : Record) (h : w.logLocations = []) :
    (w.record r).files = w.files := by
  have hfiles : w.journal.files = [] := List.map_eq_nil_iff.1 h
  rw [record]
  split
  · show Journal.writeRecord _ _ _ _ = _
    rw [Journal.writeRecord, journal_files, hfiles, List.foldl_nil]
  · rfl

/-- Nothing but the journal and its log files has changed. -/
structure Noted (w w' : World) : Prop where
  logs : w'.logLocations = w.logLocations
  files : Files.Tree.SameBut w.logLocations w.files w'.files
  silent : w.logLocations = [] → w'.files = w.files

theorem noted_record (w : World) (r : Record) : Noted w (w.record r) :=
  ⟨logLocations_record w r, sameBut_record w r, files_record w r⟩

theorem noted_logged (w : World) (part : String) (level : LevelName) (message : String) :
    Noted w (w.logged part level message) := noted_record w _

namespace Noted

variable {w w' w'' : World}

theorem refl (w : World) : Noted w w := ⟨rfl, .refl _ _, fun _ => rfl⟩

theorem trans (h : Noted w w') (h' : Noted w' w'') : Noted w w'' where
  logs := h'.logs.trans h.logs
  files := h.files.trans (h.logs ▸ h'.files)
  silent hw := (h'.silent (h.logs.trans hw)).trans (h.silent hw)

/-- A path leads to a log file before if it does afterwards. -/
theorem logsTo_iff (h : Noted w w') (p : Files.Path) : w'.LogsTo p ↔ w.LogsTo p := by
  rw [LogsTo, LogsTo, h.logs]
  rcases h.files.locate_cases p with
    ⟨e, ht, ht'⟩ | ⟨l, ht, ht'⟩ | ⟨l, ht, ht'⟩ | ⟨l, bytes, bytes', ht, ht', -⟩ <;>
    simp [ht, ht']

end Noted

end World

/-! ### Steps of work -/

namespace Work

variable {α β : Type}

theorem run_pure (a : α) (w : World) : (pure a : Work α).run.run w = (.ok a, w) := rfl

/-- What was returned, and the world after it. -/
theorem ok_eq_ok {a b : α} {w w' : World} :
    ((.ok a, w) : Id (Except Fault α × World)) = (.ok b, w') ↔ a = b ∧ w = w' := by
  constructor
  · intro h
    obtain ⟨ha, hw⟩ := Prod.mk.inj h
    exact ⟨Except.ok.inj ha, hw⟩
  · rintro ⟨rfl, rfl⟩
    rfl

theorem error_ne_ok {e : Fault} {b : α} {w w' : World} :
    ((.error e, w) : Id (Except Fault α × World)) ≠ (.ok b, w') := by
  intro h
  cases h

theorem run_bind (x : Work α) (f : α → Work β) (w : World) :
    (x >>= f).run.run w =
      match x.run.run w with
      | (.ok a, w') => (f a).run.run w'
      | (.error e, w') => (.error e, w') := by
  simp only [ExceptT.run_bind, StateT.run_bind]
  rcases x.run.run w with ⟨e | a, w'⟩ <;> rfl

/-- **Work that returns has returned at every step.** -/
theorem bind_eq_ok {x : Work α} {f : α → Work β} {w w'' : World} {b : β} :
    (x >>= f).run.run w = (.ok b, w'') ↔
      ∃ a w', x.run.run w = (.ok a, w') ∧ (f a).run.run w' = (.ok b, w'') := by
  rw [run_bind]
  rcases x.run.run w with ⟨e | a, w'⟩
  · constructor
    · exact fun h => absurd h error_ne_ok
    · rintro ⟨a, w₁, h, -⟩
      exact absurd h error_ne_ok
  · constructor
    · exact fun h => ⟨a, w', rfl, h⟩
    · rintro ⟨a', w₁, h, h'⟩
      obtain ⟨rfl, rfl⟩ := ok_eq_ok.1 h
      exact h'

theorem run_get (w : World) : (get : Work World).run.run w = (.ok w, w) := rfl

theorem run_files (f : Files.Tree → Except Files.Failure α) (w : World) :
    (files f).run.run w = ((f w.files).mapError .files, w) := by
  rw [files, run_bind, run_get]
  dsimp only
  cases f w.files <;> rfl

theorem run_changeFiles (f : Files.Tree → Except Files.Failure Files.Tree) (w : World) :
    (changeFiles f).run.run w =
      match f w.files with
      | .ok t => (.ok (), { w with files := t })
      | .error e => (.error (.files e), w) := by
  rw [changeFiles, run_bind, run_files]
  cases f w.files <;> rfl

theorem run_makeDirectories (p : Files.Path) (w : World) :
    (makeDirectories p).run.run w =
      ((w.files.makeDirectories p).2.mapError .files,
        { w with files := (w.files.makeDirectories p).1 }) := by
  rw [makeDirectories, run_bind, run_get]
  dsimp only
  rcases w.files.makeDirectories p with ⟨t, e | a⟩ <;> rfl

end Work

end EntryTemplates
