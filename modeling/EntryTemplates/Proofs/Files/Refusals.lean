/-
**Paths that the system refuses to look at.**

The system refuses a path that is too long as a whole.  On the way it refuses to go through a
directory that must not be searched, and a name that is too long where it is come upon.  What lies
behind another obstacle is never come upon: nothing can stand there, which is no failure.

Main definitions:

* `EntryTemplates.Files.Tree.Bars` — why a name in a directory is not looked up;
* `EntryTemplates.Files.Tree.BarsWay` — a walk that comes upon such a name;
* `EntryTemplates.Files.Tree.Refuses` — why a path is not looked at.

Main results:

* `EntryTemplates.Files.Tree.walk_eq_error_iff` — which walks are barred;
* `EntryTemplates.Files.Tree.inspect_eq_error_iff` — **a path cannot be looked at exactly if it is
  refused**;
* `EntryTemplates.Files.Tree.IsAt.refuses_child` — which names in a directory are refused;
* `EntryTemplates.Files.Tree.IsAt.locate_child` — where the other names lead.
-/

import EntryTemplates.Proofs.Files.Directories

set_option relaxedAutoImplicit false
set_option autoImplicit false

namespace EntryTemplates.Files.Tree

/-- Why a name in a directory is not looked up. -/
inductive Bars (t : Tree) (location : Location) (name : String) : Cause → Prop where
  | search (hdenied : t.Denies .search location) : Bars t location name .denied
  | long (hopen : ¬ t.Denies .search location) (hlong : nameLimit < name.utf8ByteSize) :
      Bars t location name .nameTooLong

/-- A walk that comes upon a name which is not looked up, in a directory that is there. -/
def BarsWay (t : Tree) (start : Location) (parts : List String) (cause : Cause) : Prop :=
  ∃ before name after location, parts = before ++ name :: after ∧
    t.Walks start before (.taken location .directory) ∧ t.Bars location name cause

/-- Why a path is not looked at: it is too long, it starts in a working directory that must not be
searched, or it is barred on the way. -/
inductive Refuses (t : Tree) (p : Path) : Cause → Prop where
  | length (hnull : hasNull p = false) (hlong : pathLimit < p.text.utf8ByteSize) :
      Refuses t p .nameTooLong
  | here (hnull : hasNull p = false) (hshort : p.text.utf8ByteSize ≤ pathLimit)
      (hrelative : p.isAbsolute = false) (hdenied : t.Denies .search t.here) : Refuses t p .denied
  | way {cause : Cause} (h : t.Walkable p) (hbars : t.BarsWay (t.start p) p.parts cause) :
      Refuses t p cause

section Walk

variable {t : Tree} {start : Location} {parts : List String} {cause : Cause}

theorem Bars.isPassedOn {location : Location} {name : String} (h : t.Bars location name cause) :
    cause.isPassedOn = true := by
  cases h <;> rfl

/-- Where a name is not looked up, the walk ends. -/
theorem Bars.walk_eq_error {location : Location} {name : String} (h : t.Bars location name cause)
    (rest : List String) : t.walk location .directory (name :: rest) = .error cause := by
  cases h with
  | search hdenied => rw [walk_cons, if_pos hdenied]
  | long hopen hlong =>
      have hup : name ≠ ".." := by
        rintro rfl
        exact absurd hlong (by decide)
      rw [walk_cons, if_neg hopen, if_neg hup, if_pos hlong]

/-- **Which walks are barred.** -/
theorem walk_eq_error_iff (hcause : cause.isPassedOn = true) :
    t.walk start .directory parts = .error cause ↔ t.BarsWay start parts cause := by
  constructor
  · intro h
    -- the steps before the name are those of a walk that succeeds
    induction parts generalizing start with
    | nil =>
        rw [walk_nil] at h
        cases h
    | cons part parts ih =>
        rw [walk_cons] at h
        by_cases hdenied : t.Denies .search start
        · rw [if_pos hdenied] at h
          obtain rfl := Except.error.inj h
          exact ⟨[], part, parts, start, rfl, .stop, .search hdenied⟩
        rw [if_neg hdenied] at h
        by_cases hup : part = ".."
        · rw [if_pos hup] at h
          obtain ⟨before, name, after, location, rfl, hwalk, hbars⟩ := ih h
          subst hup
          exact ⟨".." :: before, name, after, location, rfl, .up hdenied hwalk, hbars⟩
        rw [if_neg hup] at h
        by_cases hlong : nameLimit < part.utf8ByteSize
        · rw [if_pos hlong] at h
          obtain rfl := Except.error.inj h
          exact ⟨[], part, parts, start, rfl, .stop, .long hdenied hlong⟩
        rw [if_neg hlong] at h
        cases hat : t.at? (start ++ [part]) with
        | none =>
            rw [hat] at h
            cases parts with
            | nil => cases h
            | cons next parts =>
                obtain rfl := Except.error.inj h
                cases hcause
        | some e =>
            rw [hat] at h
            cases e with
            | file bytes =>
                cases parts with
                | nil => cases h
                | cons next parts =>
                    obtain rfl := Except.error.inj h
                    cases hcause
            | directory =>
                obtain ⟨before, name, after, location, rfl, hwalk, hbars⟩ := ih h
                exact ⟨part :: before, name, after, location, rfl,
                  .down hdenied hup (Nat.not_lt.1 hlong) hat hwalk, hbars⟩
  · rintro ⟨before, name, after, location, rfl, hwalk, hbars⟩
    rw [hwalk.append, hbars.walk_eq_error]

end Walk

section Look

variable {t : Tree} {p : Path} {cause : Cause} {e : Failure}

theorem Refuses.noNull (h : t.Refuses p cause) : hasNull p = false := by
  cases h with
  | length hnull => exact hnull
  | here hnull => exact hnull
  | way hwalkable => exact hwalkable.noNull

theorem Refuses.isPassedOn (h : t.Refuses p cause) : cause.isPassedOn = true := by
  cases h with
  | length => rfl
  | here => rfl
  | way hwalkable hbars =>
      obtain ⟨_, _, _, _, _, _, hbars⟩ := hbars
      exact hbars.isPassedOn

theorem Refuses.locate_eq_error (h : t.Refuses p cause) :
    t.locate p = .error (.system cause p.text) := by
  rw [locate, if_neg (by simp [h.noNull])]
  cases h with
  | length hnull hlong => rw [if_pos hlong]
  | here hnull hshort hrelative hdenied =>
      rw [if_neg (Nat.not_lt.2 hshort), if_pos ⟨hrelative, hdenied⟩]
  | way hwalkable hbars =>
      have hcause := (Refuses.way hwalkable hbars).isPassedOn
      rw [if_neg (Nat.not_lt.2 hwalkable.short), if_neg (not_and.2 hwalkable.opens),
        (walk_eq_error_iff hcause).2 hbars]

/-- A path that leads anywhere is not refused. -/
theorem not_refuses_of_locate {place : Place} (h : t.locate p = .ok place) (cause : Cause) :
    ¬ t.Refuses p cause := fun hrefuses => by
  rw [hrefuses.locate_eq_error] at h
  cases h

theorem locate_eq_error_cases (h : t.locate p = .error e) :
    hasNull p = true ∧ e = .nullCharacter ∨
      ∃ cause, e = .system cause p.text ∧ (cause.isPassedOn = true → t.Refuses p cause) := by
  rw [locate] at h
  split at h
  · rename_i hnull
    exact Or.inl ⟨hnull, (Except.error.inj h).symm⟩
  rename_i hnull
  rw [Bool.not_eq_true] at hnull
  refine Or.inr ?_
  split at h
  · rename_i hlong
    exact ⟨_, (Except.error.inj h).symm, fun _ => .length hnull hlong⟩
  rename_i hshort
  rw [Nat.not_lt] at hshort
  split at h
  · rename_i hhere
    exact ⟨_, (Except.error.inj h).symm, fun _ => .here hnull hshort hhere.1 hhere.2⟩
  rename_i hopen
  split at h
  · cases h
  · rename_i cause hwalk
    exact ⟨cause, (Except.error.inj h).symm, fun hcause =>
      .way ⟨hnull, hshort, not_and.1 hopen⟩ ((walk_eq_error_iff hcause).1 hwalk)⟩

/-- **A path cannot be looked at exactly if it is refused.** -/
theorem inspect_eq_error_iff :
    t.inspect p = .error e ↔ ∃ cause, t.Refuses p cause ∧ e = .system cause p.text := by
  constructor
  · intro h
    rw [inspect] at h
    split at h
    · cases h
    · cases h
    · rename_i cause text hlocate
      split at h
      · rename_i hcause
        obtain rfl := Except.error.inj h
        rcases locate_eq_error_cases hlocate with ⟨-, he⟩ | ⟨cause', he, hrefuses⟩
        · cases he
        · obtain ⟨rfl, rfl⟩ := Failure.system.inj he
          exact ⟨cause, hrefuses hcause, rfl⟩
      · cases h
    · cases h
  · rintro ⟨cause, hrefuses, rfl⟩
    rw [inspect, hrefuses.locate_eq_error]
    exact if_pos hrefuses.isPassedOn

theorem refuses_iff : t.Refuses p cause ↔ t.inspect p = .error (.system cause p.text) := by
  rw [inspect_eq_error_iff]
  constructor
  · exact fun h => ⟨cause, h, rfl⟩
  · rintro ⟨cause', h, he⟩
    rwa [(Failure.system.inj he).1]

theorem isDirectory_eq_error_iff :
    t.isDirectory p = .error e ↔ ∃ cause, t.Refuses p cause ∧ e = .system cause p.text := by
  rw [← inspect_eq_error_iff, isDirectory]
  cases t.inspect p <;> simp [Except.map]

theorem contains_eq_error_iff :
    t.contains p = .error e ↔ ∃ cause, t.Refuses p cause ∧ e = .system cause p.text := by
  rw [← inspect_eq_error_iff, contains]
  cases t.inspect p <;> simp [Except.map]

end Look

section Child

variable {t : Tree} {folder : Path} {location : Location} {name : String} {cause : Cause}

theorem IsAt.hasNull_child (h : t.IsAt folder location) (hname : IsName name) :
    hasNull (folder.child name) = false := by
  have hfolder : hasNull folder = false := (locate_eq_ok.1 h).1.noNull
  rw [Path.child_of_isName _ hname, hasNull, List.any_append]
  simpa [hasNull, hname.noNull] using hfolder

theorem IsAt.walkable_child (h : t.IsAt folder location) (hname : IsName name)
    (hshort : (folder.child name).text.utf8ByteSize ≤ pathLimit) :
    t.Walkable (folder.child name) := by
  refine ⟨h.hasNull_child hname, hshort, fun hrelative => ?_⟩
  refine (locate_eq_ok.1 h).1.opens ?_
  rwa [Path.child_of_isName _ hname] at hrelative

/-- **Which names in a directory are refused**: those with which the path is too long as a whole,
and those that are not looked up there. -/
theorem IsAt.refuses_child (h : t.IsAt folder location) (hname : IsName name) :
    t.Refuses (folder.child name) cause ↔
      pathLimit < (folder.child name).text.utf8ByteSize ∧ cause = .nameTooLong ∨
        (folder.child name).text.utf8ByteSize ≤ pathLimit ∧ t.Bars location name cause := by
  constructor
  · intro hrefuses
    cases hrefuses with
    | length hnull hlong => exact Or.inl ⟨hlong, rfl⟩
    | here hnull hshort hrelative hdenied =>
        exact absurd hdenied ((h.walkable_child hname hshort).opens hrelative)
    | way hwalkable hbars =>
        refine Or.inr ⟨hwalkable.short, ?_⟩
        have hcause := (Refuses.way hwalkable hbars).isPassedOn
        -- the walk goes to the directory, and only the name is left there
        rw [← walk_eq_error_iff hcause, h.walk_child hname, walk_eq_error_iff hcause] at hbars
        obtain ⟨before, last, after, place, hparts, hwalk, hbars⟩ := hbars
        cases before with
        | nil =>
            obtain ⟨rfl, rfl⟩ := List.cons.inj hparts
            cases hwalk
            exact hbars
        | cons part before => simp at hparts
  · rintro (⟨hlong, rfl⟩ | ⟨hshort, hbars⟩)
    · exact .length (h.hasNull_child hname) hlong
    · refine .way (h.walkable_child hname hshort) ?_
      rw [← walk_eq_error_iff hbars.isPassedOn, h.walk_child hname, hbars.walk_eq_error]

/-- **Where a name in a directory leads** if it is not refused: to what stands there, or to a free
place. -/
theorem IsAt.locate_child (h : t.IsAt folder location) (hname : IsName name)
    (hseen : ∀ cause, ¬ t.Refuses (folder.child name) cause) :
    t.locate (folder.child name) = .ok (match t.at? (location ++ [name]) with
      | some e => .taken (location ++ [name]) e
      | none => .free (location ++ [name])) := by
  have hlength : (folder.child name).text.utf8ByteSize ≤ pathLimit := Nat.not_lt.1 fun hlong =>
    hseen _ ((h.refuses_child hname).2 (Or.inl ⟨hlong, rfl⟩))
  have hbars (cause : Cause) : ¬ t.Bars location name cause := fun hbars =>
    hseen cause ((h.refuses_child hname).2 (Or.inr ⟨hlength, hbars⟩))
  have hopen : ¬ t.Denies .search location := fun hdenied => hbars _ (.search hdenied)
  have hshort : name.utf8ByteSize ≤ nameLimit := Nat.not_lt.1 fun hlong => hbars _ (.long hopen hlong)
  refine locate_eq_ok.2 ⟨h.walkable_child hname hlength, ?_⟩
  rw [← walk_eq_ok, h.walk_child hname, walk_eq_ok]
  cases hat : t.at? (location ++ [name]) with
  | none => exact .free hopen hname.notUp hshort hat
  | some e => exact .last hopen hname.notUp hshort hat

/-- So what stands there is seen. -/
theorem IsAt.contains_child (h : t.IsAt folder location) (hname : IsName name)
    (hseen : ∀ cause, ¬ t.Refuses (folder.child name) cause) :
    t.contains (folder.child name) = .ok (t.at? (location ++ [name])).isSome := by
  rw [contains, inspect, h.locate_child hname hseen]
  cases t.at? (location ++ [name]) <;> rfl

end Child

end EntryTemplates.Files.Tree
