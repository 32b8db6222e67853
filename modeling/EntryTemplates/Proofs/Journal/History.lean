/-
**What a journal holds after any use of it.**

The console's level is the one that was set last.  Of the log files that were added with success
each location counts once, with the level of its first addition; and from its addition on a log file
receives one line for each entry of level 10 and above that reaches its own level, in the order of
the entries, whichever part of the library they are of.

Two kinds of use are left out, on which this fails: a path with two slashes at the root, which is
not known again, and a part whose name begins with a dot, which is not heard.

Main definitions:

* `EntryTemplates.Journal.Use`, `EntryTemplates.Journal.Call` — what is done with a journal, and
  when;
* `EntryTemplates.World.after` — the world after some calls, whether they succeed or not;
* `EntryTemplates.World.additions` — the log files that calls have added with success;
* `EntryTemplates.Journal.firstOfEach` — the first log file of each location;
* `EntryTemplates.Journal.text` — what calls write to a log file;
* `EntryTemplates.World.Attached` — the log files that are set up are files at different locations.

Main results:

* `EntryTemplates.World.kept_call` — **what one call keeps**, one case for each use;
* `EntryTemplates.World.kept_after` — what any calls keep;
* `EntryTemplates.World.journal_of_calls` — **what a journal holds after any calls**.
-/

import EntryTemplates.Proofs.Files.Locations
import EntryTemplates.Proofs.Running
import Mathlib.Data.List.Induction

set_option relaxedAutoImplicit false
set_option autoImplicit false

namespace EntryTemplates

namespace Journal

/-! ### Uses of a journal -/

/-- What is done with a journal. -/
inductive Use where
  /-- The console's level is set and, if a path is given, a log file is added. -/
  | setUp (level : Int) (path : Option String)
  /-- The console's level is set. -/
  | setLevel (level : Int)
  | addFile (path : String) (level : Int)
  /-- An entry of a part of the library; of the library itself, if no part is named. -/
  | log (part : Option String) (level : Int) (message : String)

namespace Use

/-- The work of a use. -/
def work : Use → Work Unit
  | setUp level path => Work.setUpLogging level path
  | setLevel level => Work.setConsoleLevel level
  | addFile path level => Work.addLogFile path level
  | log part level message => Work.record ⟨sourceOf part, level, message⟩

/-- The console's level that a use sets. -/
def consoleLevel? : Use → Option Int
  | setUp level _ => some level
  | setLevel level => some level
  | addFile .. => none
  | log .. => none

/-- The path that a use adds a log file by, and the least level of its entries. -/
def file? : Use → Option (String × Int)
  | setUp _ none => none
  | setUp _ (some path) => if path = "" then none else some (path, leastLevel)
  | setLevel _ => none
  | addFile path level => some (path, level)
  | log .. => none

/-- The entry of a use. -/
def record? : Use → Option Record
  | setUp .. => none
  | setLevel _ => none
  | addFile .. => none
  | log part level message => some ⟨sourceOf part, level, message⟩

/-- The uses without surprises: no path has two slashes at its root, and no part has a name that
begins with a dot. -/
def IsOrdinary : Use → Prop
  | setUp _ none => True
  | setUp _ (some path) => (Files.Path.ofString path).root ≠ "//"
  | setLevel _ => True
  | addFile path _ => (Files.Path.ofString path).root ≠ "//"
  | log part _ _ => IsHeard part

instance : DecidablePred IsOrdinary
  | setUp _ none => isTrue trivial
  | setUp _ (some path) => inferInstanceAs (Decidable ((Files.Path.ofString path).root ≠ "//"))
  | setLevel _ => isTrue trivial
  | addFile path _ => inferInstanceAs (Decidable ((Files.Path.ofString path).root ≠ "//"))
  | log part _ _ => inferInstanceAs (Decidable (IsHeard part))

end Use

/-- A use of a journal, and how the time of it is written. -/
structure Call where
  use : Use
  stamp : String

/-- The console's level after some calls on a new journal: the last one that was set. -/
def lastLevel (calls : List Call) : Int :=
  (calls.filterMap fun c => c.use.consoleLevel?).getLastD LevelName.warning.level

/-- The line that a call writes to a log file, if its entry has a level that is kept and that the
file is for. -/
def Call.line? (f : LogFile) (c : Call) : Option String :=
  match c.use.record? with
  | none => none
  | some r => if leastLevel ≤ r.level ∧ f.level ≤ r.level then some (line c.stamp r) else none

/-- What calls write to a log file: one line after the other. -/
def text (f : LogFile) (calls : List Call) : String :=
  String.join (calls.filterMap (Call.line? f))

/-- The first log file of each location. -/
def firstOfEach : List LogFile → List LogFile
  | [] => []
  | f :: rest => f :: (firstOfEach rest).filter fun g => g.location ≠ f.location

/-- The log files with one more, unless there is one at its location. -/
def attach (files : List LogFile) (f : LogFile) : List LogFile :=
  if f.location ∈ files.map LogFile.location then files else files ++ [f]

end Journal

namespace World

open Journal

/-- A world with a new journal. -/
def fresh (t : Files.Tree) : World := ⟨t, .start, ""⟩

/-- What becomes of a call. -/
def run (w : World) (c : Call) : Except Fault Unit × World :=
  c.use.work.run.run { w with stamp := c.stamp }

/-- The world after a call, whether it succeeds or not. -/
def call (w : World) (c : Call) : World := (w.run c).2

/-- The world after some calls, whether they succeed or not. -/
def after (w : World) (calls : List Call) : World := calls.foldl call w

/-- The log file that a call adds, if it does so with success. -/
def addition? (w : World) (c : Call) : Option LogFile :=
  match (w.run c).1, c.use.file? with
  | .ok (), some (path, level) => some (LogFile.ofPath w.files (Files.Path.ofString path) level)
  | _, _ => none

/-- The log files that calls have added with success, in their order. -/
def additions (w : World) : List Call → List LogFile
  | [] => []
  | c :: calls => (w.addition? c).toList ++ additions (w.call c) calls

end World

/-! ### The first of each location -/

namespace Journal

theorem firstOfEach_concat (files : List LogFile) (f : LogFile) :
    firstOfEach (files ++ [f]) = attach (firstOfEach files) f := by
  induction files with
  | nil => rfl
  | cons g files ih =>
      rw [List.cons_append, firstOfEach, firstOfEach, ih, attach, attach]
      by_cases hg : f.location = g.location
      · -- the new one is none of the rest, as it stands where the first one does
        have hfirst : f.location ∈ (g :: (firstOfEach files).filter fun h =>
            h.location ≠ g.location).map LogFile.location := by simp [hg]
        rw [if_pos hfirst]
        split
        · rfl
        · rw [List.filter_append, List.filter_cons_of_neg (by simp [hg]), List.filter_nil,
            List.append_nil]
      · by_cases hmem : f.location ∈ (firstOfEach files).map LogFile.location
        · obtain ⟨h, hh, hlocation⟩ := List.mem_map.1 hmem
          rw [if_pos hmem, if_pos]
          refine List.mem_cons_of_mem _ (List.mem_map.2 ⟨h, List.mem_filter.2 ⟨hh, ?_⟩, hlocation⟩)
          simpa [hlocation] using hg
        · rw [if_neg hmem, if_neg]
          · rw [List.filter_append, List.filter_cons_of_pos (by simpa using hg), List.filter_nil,
              List.cons_append]
          · rw [List.map_cons, List.mem_cons, not_or]
            refine ⟨hg, fun hlocation => hmem ?_⟩
            obtain ⟨h, hh, hlocation⟩ := List.mem_map.1 hlocation
            exact List.mem_map.2 ⟨h, (List.mem_filter.1 hh).1, hlocation⟩

/-- **Log files that are attached one after the other** are the first ones of each location. -/
theorem foldl_attach (files : List LogFile) : files.foldl attach [] = firstOfEach files := by
  induction files using List.reverseRecOn with
  | nil => rfl
  | append_singleton files f ih =>
      rw [List.foldl_append, ih, firstOfEach_concat]
      rfl

theorem text_cons (f : LogFile) (c : Call) (calls : List Call) :
    text f (c :: calls) = (c.line? f).getD "" ++ text f calls := by
  rw [text, text, List.filterMap_cons]
  cases c.line? f with
  | none => simp
  | some line => simp [String.join_cons]

end Journal

/-! ### What one call keeps -/

namespace World

open Journal

/-- The log files that are set up are files at different locations, added by paths with one slash at
the root. -/
structure Attached (w : World) : Prop where
  notUp : ".." ∉ w.files.here
  root : ∀ f ∈ w.journal.files, f.root = "/"
  file : ∀ f ∈ w.journal.files, ∃ bytes, w.files.at? f.location = some (.file bytes)
  nodup : (w.journal.files.map LogFile.location).Nodup

/-- **What one call keeps.**  A log file is attached if one was added, the console's level is the one
that was set, and each log file receives the line of the call. -/
structure Kept (w : World) (c : Call) : Prop where
  attached : Attached (w.call c)
  files : (w.call c).journal.files = (w.addition? c).toList.foldl attach w.journal.files
  consoleLevel : (w.call c).journal.consoleLevel =
    c.use.consoleLevel?.getD w.journal.consoleLevel
  content : ∀ f ∈ w.journal.files, ∀ old, w.files.at? f.location = some (.file old) →
    (w.call c).files.at? f.location = some (.file (old ++ ((c.line? f).getD "").toUTF8))

theorem attached_fresh {t : Files.Tree} (h : ".." ∉ t.here) : Attached (fresh t) :=
  ⟨h, fun _ hf => absurd hf List.not_mem_nil, fun _ hf => absurd hf List.not_mem_nil, List.nodup_nil⟩

/-- What adding a log file does. -/
theorem run_addLogFile (path : String) (level : Int) (w : World) :
    (Work.addLogFile path level).run.run w =
      let p := Files.Path.ofString path
      let w₁ : World := { w with files := (w.files.makeDirectories p.parent).1 }
      let new := LogFile.ofPath w₁.files p level
      match (w.files.makeDirectories p.parent).2 with
      | .error e => (.error (.files e), w₁)
      | .ok () =>
          if Files.Tree.hasNull p then (.error (.files .nullCharacter), w₁)
          else if w₁.journal.files.any fun f => f.path = ⟨"/", new.location⟩ then (.ok (), w₁)
          else
            match w₁.files.ensureFile new.path with
            | .error e => (.error (.files e), w₁)
            | .ok t => (.ok (), { w₁ with
                files := t, journal := { w₁.journal with files := w₁.journal.files ++ [new] } }) := by
  rw [Work.addLogFile, Work.run_bind, Work.run_makeDirectories]
  dsimp only
  cases (w.files.makeDirectories (Files.Path.ofString path).parent).2 with
  | error e => rfl
  | ok _ =>
      dsimp only [Except.mapError]
      rw [Work.run_bind, Work.run_get]
      dsimp only
      split
      · rfl
      · split
        · rfl
        · rw [Work.run_bind, Work.run_changeFiles]
          generalize Files.Tree.ensureFile _ _ = opened
          cases opened <;> rfl

theorem known_iff {w : World} (h : w.Attached) {location : Files.Location} :
    (w.journal.files.any fun f => f.path = ⟨"/", location⟩) = true ↔
      location ∈ w.journal.files.map LogFile.location := by
  rw [List.any_eq_true, List.mem_map]
  constructor
  · rintro ⟨f, hf, hpath⟩
    exact ⟨f, hf, (Files.Path.mk.inj (of_decide_eq_true hpath)).2⟩
  · rintro ⟨f, hf, rfl⟩
    exact ⟨f, hf, decide_eq_true (by rw [LogFile.path, h.root f hf])⟩

/-- The world in which a log file was added, with the tree after it was opened. -/
def holding (w : World) (t : Files.Tree) (f : LogFile) : World :=
  { w with files := t, journal := { w.journal with files := attach w.journal.files f } }

/-- **A log file is added, or else nothing but directories is**; all files are kept in any case. -/
theorem addLogFile_cases {w : World} (h : w.Attached) {path : String} (level : Int)
    (hpath : (Files.Path.ofString path).root ≠ "//") :
    ∃ t, Files.Tree.KeepsFiles w.files t ∧
      ((∃ e, (Work.addLogFile path level).run.run w = (.error e, { w with files := t })) ∨
      ((∃ bytes, t.at? (w.files.absolute (Files.Path.ofString path)) = some (.file bytes)) ∧
        (Work.addLogFile path level).run.run w =
          (.ok (), w.holding t (LogFile.ofPath w.files (Files.Path.ofString path) level)))) := by
  obtain ⟨p, hp⟩ : ∃ p, p = Files.Path.ofString path := ⟨_, rfl⟩
  obtain ⟨t, ht⟩ : ∃ t, t = (w.files.makeDirectories p.parent).1 := ⟨_, rfl⟩
  have hkeeps : Files.Tree.KeepsFiles w.files t := ht ▸ .makeDirectories _ _
  have hnew : LogFile.ofPath t p level = LogFile.ofPath w.files p level := by
    rw [LogFile.ofPath, LogFile.ofPath, Files.Tree.absolute_congr hkeeps.here]
  have hlocation : (LogFile.ofPath w.files p level).location = w.files.absolute p := rfl
  have hpath' : (LogFile.ofPath w.files p level).path = ⟨"/", w.files.absolute p⟩ := by
    rw [← hp] at hpath
    simp [LogFile.path, LogFile.ofPath, hpath]
  simp only [run_addLogFile, ← hp, ← ht, hnew, hpath', hlocation]
  cases (w.files.makeDirectories p.parent).2 with
  | error e => exact ⟨t, hkeeps, Or.inl ⟨_, rfl⟩⟩
  | ok _ =>
      dsimp only
      split
      · exact ⟨t, hkeeps, Or.inl ⟨_, rfl⟩⟩
      · split
        · -- the location is that of a log file already
          rename_i hknown
          have hmem := (known_iff h).1 hknown
          obtain ⟨f, hf, heq⟩ := List.mem_map.1 hmem
          obtain ⟨bytes, hbytes⟩ := h.file f hf
          refine ⟨t, hkeeps, Or.inr ⟨⟨bytes, heq ▸ hkeeps.file _ _ hbytes⟩, ?_⟩⟩
          rw [holding, attach, hlocation, if_pos hmem]
        · rename_i hnot
          split
          · exact ⟨t, hkeeps, Or.inl ⟨_, rfl⟩⟩
          · rename_i t' hensure
            obtain ⟨hkeeps', hfile⟩ :=
              Files.Tree.ensureFile_eq_ok (by decide) (Files.Tree.notUp_absolute h.notUp p) hensure
            refine ⟨t', hkeeps.trans hkeeps', Or.inr ⟨hfile, ?_⟩⟩
            rw [holding, attach, hlocation, if_neg fun hmem => hnot ((known_iff h).2 hmem)]

/-- A log file that cannot be added leaves the journal as it was. -/
theorem journal_of_addLogFile_error {w w' : World} {path : String} {level : Int} {e : Fault}
    (h : (Work.addLogFile path level).run.run w = (.error e, w')) : w'.journal = w.journal := by
  rw [run_addLogFile] at h
  dsimp only at h
  split at h
  · rw [← (Prod.mk.inj h).2]
  · split at h
    · rw [← (Prod.mk.inj h).2]
    · split at h
      · exact absurd (Prod.mk.inj h).1 (by simp)
      · split at h
        · rw [← (Prod.mk.inj h).2]
        · exact absurd (Prod.mk.inj h).1 (by simp)

/-- **However its path is spelled, a log file is not added again**: nothing happens at all. -/
theorem addLogFile_of_attached {w : World} (h : w.Attached) {f : LogFile} (hf : f ∈ w.journal.files)
    {path : String} (level : Int) {bytes : ByteArray}
    (hpath : w.files.locate (Files.Path.ofString path) = .ok (.taken f.location (.file bytes))) :
    (Work.addLogFile path level).run.run w = (.ok (), w) := by
  obtain ⟨p, hp⟩ : ∃ p, p = Files.Path.ofString path := ⟨_, rfl⟩
  rw [← hp] at hpath
  have hlocation : (LogFile.ofPath w.files p level).location = f.location :=
    (Files.Tree.location_of_locate hpath).symm
  have hknown := (known_iff h).2 (List.mem_map_of_mem hf)
  have hnull : Files.Tree.hasNull p = false := (Files.Tree.locate_eq_ok.1 hpath).1.1
  simp only [run_addLogFile, ← hp, Files.Tree.makeDirectories_of_isAt (Files.Tree.isAt_parent hpath),
    hlocation, hnull, hknown, Bool.false_eq_true, if_false, if_true]

theorem Attached.of_keepsFiles {w w' : World} (h : w.Attached)
    (hjournal : w'.journal.files = w.journal.files)
    (hkeeps : Files.Tree.KeepsFiles w.files w'.files) : w'.Attached where
  notUp := hkeeps.here ▸ h.notUp
  root := hjournal ▸ h.root
  file f hf := by
    obtain ⟨bytes, hbytes⟩ := h.file f (hjournal ▸ hf)
    exact ⟨bytes, hkeeps.file _ _ hbytes⟩
  nodup := hjournal ▸ h.nodup

theorem Attached.holding {w : World} (h : w.Attached) {t : Files.Tree} {f : LogFile}
    (hkeeps : Files.Tree.KeepsFiles w.files t) (hroot : f.root = "/")
    (hfile : ∃ bytes, t.at? f.location = some (.file bytes)) : (w.holding t f).Attached := by
  have hmem {g : LogFile} (hg : g ∈ attach w.journal.files f) : g ∈ w.journal.files ∨ g = f := by
    rw [attach] at hg
    split at hg
    · exact Or.inl hg
    · simpa using hg
  refine ⟨hkeeps.here ▸ h.notUp, fun g hg => ?_, fun g hg => ?_, ?_⟩
  · rcases hmem hg with hold | rfl
    · exact h.root g hold
    · exact hroot
  · rcases hmem hg with hold | rfl
    · obtain ⟨bytes, hbytes⟩ := h.file g hold
      exact ⟨bytes, hkeeps.file _ _ hbytes⟩
    · exact hfile
  · show ((attach w.journal.files f).map LogFile.location).Nodup
    rw [attach]
    split
    · exact h.nodup
    · rename_i hnew
      rw [List.map_append]
      refine List.nodup_append.2 ⟨h.nodup, List.nodup_singleton _, fun a ha b hb => ?_⟩
      rintro rfl
      exact hnew (List.mem_singleton.1 hb ▸ ha)

theorem line?_of_not_record {c : Call} (h : c.use.record? = none) (f : LogFile) :
    c.line? f = none := by
  rw [Call.line?, h]

theorem append_no_line (old : ByteArray) : old ++ "".toUTF8 = old := ByteArray.append_empty

/-- The world at the time of a call, with the console's level that it sets. -/
def tuned (w : World) (c : Call) : World :=
  { w with
    stamp := c.stamp
    journal := { w.journal with
      consoleLevel := c.use.consoleLevel?.getD w.journal.consoleLevel } }

/-- A call that does nothing but set the console's level. -/
theorem kept_of_tuned {w : World} {c : Call} (h : w.Attached) (hfile : c.use.file? = none)
    (hrecord : c.use.record? = none) (hrun : w.run c = (.ok (), w.tuned c)) : Kept w c := by
  have hcall : w.call c = w.tuned c := by rw [call, hrun]
  have haddition : w.addition? c = none := by
    rw [addition?, hrun, hfile]
  refine ⟨hcall ▸ h.of_keepsFiles rfl (.refl _), ?_, by rw [hcall]; rfl, fun f hf old hold => ?_⟩
  · rw [hcall, haddition]
    rfl
  · rw [hcall, line?_of_not_record hrecord, Option.getD_none, append_no_line]
    exact hold

/-- A call that adds a log file. -/
theorem kept_of_addLogFile {w : World} {c : Call} {path : String} {level : Int} (h : w.Attached)
    (hpath : (Files.Path.ofString path).root ≠ "//") (hfile : c.use.file? = some (path, level))
    (hrecord : c.use.record? = none)
    (hrun : w.run c = (Work.addLogFile path level).run.run (w.tuned c)) : Kept w c := by
  have htuned : (w.tuned c).Attached := h.of_keepsFiles rfl (.refl _)
  have hcontent (t : Files.Tree) (hkeeps : Files.Tree.KeepsFiles w.files t) (f : LogFile)
      (old : ByteArray) (hold : w.files.at? f.location = some (.file old)) :
      t.at? f.location = some (.file (old ++ ((c.line? f).getD "").toUTF8)) := by
    rw [line?_of_not_record hrecord, Option.getD_none, append_no_line]
    exact hkeeps.file _ _ hold
  obtain ⟨t, hkeeps, ⟨e, hadd⟩ | ⟨hat, hadd⟩⟩ := addLogFile_cases htuned level hpath
  · have hcall : w.call c = { w.tuned c with files := t } := by rw [call, hrun, hadd]
    have haddition : w.addition? c = none := by rw [addition?, hrun, hadd]
    refine ⟨hcall ▸ htuned.of_keepsFiles rfl hkeeps, ?_, by rw [hcall]; rfl,
      fun f hf old hold => ?_⟩
    · rw [hcall, haddition]
      rfl
    · rw [hcall]
      exact hcontent t hkeeps f old hold
  · obtain ⟨new, hnew⟩ : ∃ new, new = LogFile.ofPath w.files (Files.Path.ofString path) level :=
      ⟨_, rfl⟩
    have hcall : w.call c = (w.tuned c).holding t new := by rw [call, hrun, hadd, hnew]; rfl
    have haddition : w.addition? c = some new := by rw [addition?, hrun, hadd, hfile, hnew]
    have hroot : new.root = "/" := by simp [hnew, LogFile.ofPath, hpath]
    refine ⟨hcall ▸ htuned.holding hkeeps hroot (hnew ▸ hat), ?_, by rw [hcall]; rfl,
      fun f hf old hold => ?_⟩
    · rw [hcall, haddition]
      rfl
    · rw [hcall]
      exact hcontent t hkeeps f old hold

/-- **Each log file receives an entry once**, if it is for its level. -/
theorem at?_writeRecord {files : List LogFile} (hnodup : (files.map LogFile.location).Nodup)
    {f : LogFile} (hf : f ∈ files) (stamp : String) (r : Record) {t : Files.Tree} {old : ByteArray}
    (hold : t.at? f.location = some (.file old)) :
    (files.foldl (fun t g =>
        if g.level ≤ r.level then t.append g.location (line stamp r).toUTF8 else t) t).at?
          f.location =
      some (.file (if f.level ≤ r.level then old ++ (line stamp r).toUTF8 else old)) := by
  induction files generalizing t with
  | nil => exact absurd hf List.not_mem_nil
  | cons g files ih =>
      rw [List.map_cons, List.nodup_cons] at hnodup
      rw [List.foldl_cons]
      rcases List.mem_cons.1 hf with rfl | hrest
      · -- the files behind it stand elsewhere
        rw [(sameBut_writeRecord (fun h => List.mem_map_of_mem) stamp r _).same _ hnodup.1]
        split
        · rw [Files.Tree.at?_append _ hold, if_pos rfl]
        · exact hold
      · refine ih hnodup.2 hrest ?_
        have hne : f.location ≠ g.location := fun heq =>
          hnodup.1 (heq ▸ List.mem_map_of_mem hrest)
        split
        · rw [Files.Tree.at?_append _ hold, if_neg hne]
        · exact hold

theorem journal_record (w : World) (r : Record) :
    (w.record r).journal.files = w.journal.files ∧
      (w.record r).journal.consoleLevel = w.journal.consoleLevel := by
  have hlevel : ((w.journal.know r.source).accept r).consoleLevel = w.journal.consoleLevel := by
    rw [accept, know]
    split <;> split <;> rfl
  rw [World.record]
  split
  · exact ⟨journal_files w.journal r, hlevel⟩
  · exact ⟨journal_files w.journal r, hlevel⟩

/-- A call that makes an entry. -/
theorem kept_of_record {w : World} {c : Call} {r : Record} (h : w.Attached)
    (hreaches : (w.journal.know r.source).reaches r.source = true)
    (hfile : c.use.file? = none) (hlevel : c.use.consoleLevel? = none)
    (hrecord : c.use.record? = some r)
    (hrun : w.run c = (.ok (), ({ w with stamp := c.stamp } : World).record r)) : Kept w c := by
  obtain ⟨w₁, hw₁⟩ : ∃ w₁ : World, w₁ = { w with stamp := c.stamp } := ⟨_, rfl⟩
  rw [← hw₁] at hrun
  have hcall : w.call c = w₁.record r := by rw [call, hrun]
  have haddition : w.addition? c = none := by rw [addition?, hrun, hfile]
  obtain ⟨hfiles, hconsole⟩ := journal_record w₁ r
  have hsame := sameBut_record w₁ r
  refine ⟨⟨?_, ?_, fun f hf => ?_, ?_⟩, ?_, ?_, fun f hf old hold => ?_⟩
  · rw [hcall, hsame.here, hw₁]
    exact h.notUp
  · rw [hcall, hfiles, hw₁]
    exact h.root
  · rw [hcall, hfiles, hw₁] at hf
    obtain ⟨bytes, hbytes⟩ := h.file f hf
    have hkind := hsame.kind f.location
    rw [hw₁] at hkind
    simp only [hbytes, Option.map_some] at hkind
    obtain ⟨e, he, hfile⟩ := Option.map_eq_some_iff.1 hkind
    obtain ⟨bytes', rfl⟩ := Files.Entry.exists_bytes hfile
    rw [hcall, hw₁]
    exact ⟨bytes', he⟩
  · rw [hcall, hfiles, hw₁]
    exact h.nodup
  · rw [hcall, hfiles, haddition, hw₁]
    rfl
  · rw [hcall, hconsole, hlevel, hw₁]
    rfl
  · have hkeeps : (w₁.journal.know r.source).keeps r = decide (leastLevel ≤ r.level) := by
      rw [hw₁, keeps, hreaches, Bool.and_true]
    have hwritten := at?_writeRecord h.nodup hf c.stamp r hold
    rw [hcall, Call.line?, hrecord, World.record]
    by_cases hleast : leastLevel ≤ r.level
    · rw [if_pos (by simpa [hkeeps] using hleast)]
      simp only [hleast, true_and]
      refine Eq.trans ?_ (hwritten.trans ?_)
      · show (writeRecord _ _ _ _).at? _ = _
        rw [writeRecord, journal_files, hw₁]
      · split
        · rfl
        · rw [Option.getD_none, append_no_line]
    · rw [if_neg (by simpa [hkeeps] using hleast)]
      simp only [hleast, false_and, if_false, Option.getD_none, append_no_line]
      rw [hw₁]
      exact hold

theorem run_setUpLogging (level : Int) {path : String} (hpath : path ≠ "") (w : World) :
    (Work.setUpLogging level (some path)).run.run w =
      (Work.addLogFile path leastLevel).run.run
        { w with journal := { w.journal with consoleLevel := level } } := by
  rw [Work.setUpLogging]
  · rfl
  · exact hpath

/-- **What one call keeps**, one case for each use. -/
theorem kept_call {w : World} (h : w.Attached) {c : Call} (hc : c.use.IsOrdinary) : Kept w c := by
  obtain ⟨use, stamp⟩ := c
  cases use with
  | setUp level path =>
      cases path with
      | none => exact kept_of_tuned h rfl rfl rfl
      | some path =>
          by_cases hempty : path = ""
          · subst hempty
            exact kept_of_tuned h rfl rfl rfl
          · exact kept_of_addLogFile h hc (if_neg hempty) rfl (run_setUpLogging level hempty _)
  | setLevel level => exact kept_of_tuned h rfl rfl rfl
  | addFile path level => exact kept_of_addLogFile h hc rfl rfl rfl
  | log part level message =>
      exact kept_of_record h (reaches_sourceOf _ hc) rfl rfl rfl rfl

/-! ### What any calls keep -/

theorem mem_foldl_attach {f : LogFile} {files new : List LogFile} (h : f ∈ files) :
    f ∈ new.foldl attach files := by
  induction new generalizing files with
  | nil => exact h
  | cons g new ih =>
      refine ih ?_
      rw [attach]
      split
      · exact h
      · exact List.mem_append_left _ h

/-- What any calls keep: the same as one call does, all together. -/
theorem kept_after {w : World} (h : w.Attached) (calls : List Call)
    (hcalls : ∀ c ∈ calls, c.use.IsOrdinary) :
    (w.after calls).Attached ∧
    (w.after calls).journal.files = (w.additions calls).foldl attach w.journal.files ∧
    (w.after calls).journal.consoleLevel =
      (calls.filterMap fun c => c.use.consoleLevel?).getLastD w.journal.consoleLevel ∧
    ∀ f ∈ w.journal.files, ∀ old, w.files.at? f.location = some (.file old) →
      (w.after calls).files.at? f.location = some (.file (old ++ (text f calls).toUTF8)) := by
  induction calls generalizing w with
  | nil =>
      refine ⟨h, rfl, rfl, fun f hf old hold => ?_⟩
      rw [text, List.filterMap_nil, String.join_nil, append_no_line]
      exact hold
  | cons c calls ih =>
      have hkept := kept_call h (hcalls c List.mem_cons_self)
      obtain ⟨hattached, hfiles, hlevel, hcontent⟩ :=
        ih hkept.attached fun d hd => hcalls d (List.mem_cons_of_mem _ hd)
      have hafter : w.after (c :: calls) = (w.call c).after calls := rfl
      refine ⟨hattached, ?_, ?_, fun f hf old hold => ?_⟩
      · rw [hafter, hfiles, hkept.files, additions, List.foldl_append]
      · rw [hafter, hlevel, hkept.consoleLevel, List.filterMap_cons]
        cases c.use.consoleLevel? with
        | none => rfl
        | some level => exact List.getLastD_cons.symm
      · have hmem : f ∈ (w.call c).journal.files := hkept.files ▸ mem_foldl_attach hf
        rw [hafter, hcontent f hmem _ (hkept.content f hf old hold), text_cons, String.toUTF8,
          String.toUTF8, String.toUTF8, String.toByteArray_append, ByteArray.append_assoc]

/-- **What a journal holds after any calls** on a new one, whether they succeed or not.  The console
shows what reaches the level that was set last; the log files are those that were added with
success, the first one of each location; one that cannot be added changes nothing about them, and
nor does another spelling of the path of one of them; and whatever a log file held before some of
the calls, it holds then, followed by one line for each of their entries that reaches its level. -/
theorem journal_of_calls {t : Files.Tree} (hhere : ".." ∉ t.here) (calls : List Call)
    (hcalls : ∀ c ∈ calls, c.use.IsOrdinary) :
    ((fresh t).after calls).journal.consoleLevel = lastLevel calls ∧
    ((fresh t).after calls).journal.files = firstOfEach ((fresh t).additions calls) ∧
    (∀ path level e w', (Work.addLogFile path level).run.run ((fresh t).after calls) =
      (.error e, w') → w'.journal = ((fresh t).after calls).journal) ∧
    (∀ f ∈ ((fresh t).after calls).journal.files, ∀ path level bytes,
      ((fresh t).after calls).files.locate (Files.Path.ofString path) =
        .ok (.taken f.location (.file bytes)) →
      (Work.addLogFile path level).run.run ((fresh t).after calls) =
        (.ok (), (fresh t).after calls)) ∧
    ∀ before rest, calls = before ++ rest → ∀ f ∈ ((fresh t).after before).journal.files,
      f ∈ ((fresh t).after calls).journal.files ∧
      ∃ old, ((fresh t).after before).files.at? f.location = some (.file old) ∧
        ((fresh t).after calls).files.at? f.location =
          some (.file (old ++ (text f rest).toUTF8)) := by
  obtain ⟨hattached, hfiles, hlevel, -⟩ := kept_after (attached_fresh hhere) calls hcalls
  refine ⟨hlevel, hfiles.trans (foldl_attach _), fun path level e w' hadd => ?_,
    fun f hf path level bytes hpath => addLogFile_of_attached hattached hf level hpath, ?_⟩
  · exact journal_of_addLogFile_error hadd
  · rintro before rest rfl f hf
    have hbefore := kept_after (attached_fresh hhere) before fun c hc =>
      hcalls c (List.mem_append_left _ hc)
    have hrest := kept_after hbefore.1 rest fun c hc => hcalls c (List.mem_append_right _ hc)
    have hafter : (fresh t).after (before ++ rest) = ((fresh t).after before).after rest :=
      List.foldl_append
    obtain ⟨old, hold⟩ := hbefore.1.file f hf
    rw [hafter]
    exact ⟨hrest.2.1 ▸ mem_foldl_attach hf, old, hold, hrest.2.2.2 f hf old hold⟩

/-- A log file that is added by two spellings of its path, and an entry. -/
def twoSpellings : List Call :=
  [⟨.setUp 20 (some "logs/a.log"), "noon"⟩, ⟨.addFile "logs/../logs//a.log" 40, "one"⟩,
    ⟨.log (some "writer") 10 "saved", "two"⟩]

theorem journal_of_calls_twoSpellings :
    ((".." ∉ Files.Tree.empty.here) ∧ ∀ c ∈ twoSpellings, c.use.IsOrdinary) ∧
    ((fresh .empty).after twoSpellings).journal.consoleLevel = 20 ∧
    ((fresh .empty).after twoSpellings).journal.files = [⟨["work", "logs", "a.log"], 10, "/"⟩] ∧
    ∃ old, ((fresh .empty).after (twoSpellings.take 1)).files.at? ["work", "logs", "a.log"] =
        some (.file old) ∧
      ((fresh .empty).after twoSpellings).files.at? ["work", "logs", "a.log"] =
        some (.file (old ++ "two - cpp_test_mains.writer - DEBUG - saved\n".toUTF8)) := by
  have hhere : ".." ∉ Files.Tree.empty.here := by decide
  have hcalls : ∀ c ∈ twoSpellings, c.use.IsOrdinary := by decide +kernel
  obtain ⟨hlevel, hfiles, -, -, hcontent⟩ := journal_of_calls hhere twoSpellings hcalls
  obtain ⟨-, old, hold, hnew⟩ := hcontent (twoSpellings.take 1) (twoSpellings.drop 1) rfl
    ⟨["work", "logs", "a.log"], 10, "/"⟩ (by decide +kernel)
  exact ⟨⟨hhere, hcalls⟩, hlevel, hfiles.trans (by decide +kernel), old, hold, hnew⟩

/-- A log file, and an entry of a part whose name begins with a dot. -/
def dottedPart : List Call :=
  [⟨.addFile "a.log" 10, "noon"⟩, ⟨.log (some ".x") 20 "saved", "one"⟩]

/-- A log file that is added twice by a path with two slashes at its root. -/
def doubledRoot : List Call :=
  [⟨.addFile "//a.log" 10, "noon"⟩, ⟨.addFile "//a.log" 10, "one"⟩]

/-- **The two uses that are left out do fail**: an entry of a part whose name begins with a dot is
not written to a log file that it is for, and a log file is set up twice. -/
theorem unordinary_uses_fail :
    (⟨["work", "a.log"], 10, "/"⟩ ∈ ((fresh .empty).after (dottedPart.take 1)).journal.files ∧
      ((fresh .empty).after (dottedPart.take 1)).files.at? ["work", "a.log"] =
        some (.file .empty) ∧
      text ⟨["work", "a.log"], 10, "/"⟩ (dottedPart.drop 1) =
        "one - cpp_test_mains..x - INFO - saved\n" ∧
      ((fresh .empty).after dottedPart).files.at? ["work", "a.log"] = some (.file .empty)) ∧
    ((fresh .empty).after doubledRoot).journal.files =
      [⟨["a.log"], 10, "//"⟩, ⟨["a.log"], 10, "//"⟩] := by
  refine ⟨⟨?_, ?_, ?_, ?_⟩, ?_⟩ <;> decide +kernel

end World

end EntryTemplates
