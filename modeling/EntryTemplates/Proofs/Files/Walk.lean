/-
**Where paths lead after a change of the files.**

A walk looks at the kinds of the entries on its way, and at the content of none.  So it is the same
in two trees that have entries of the same kinds, and a file that was written is found again.

Main definitions:

* `EntryTemplates.Files.Place.kind` — where a walk ends, and at what kind of entry;
* `EntryTemplates.Files.Tree.Walks` — the walks that succeed;
* `EntryTemplates.Files.Tree.SamePlace` — two walks that end at the same place, but for the content
  of a file that was changed;
* `EntryTemplates.Files.Tree.Distinct` — a tree that lists no location twice;
* `EntryTemplates.Files.Tree.SameBut` — two trees that differ in the contents of some files only.

Main results:

* `EntryTemplates.Files.Tree.walk_eq_ok` — **which walks succeed, and where they end**;
* `EntryTemplates.Files.Tree.locate_write`, `EntryTemplates.Files.Tree.read_of_locate` — **what was
  written to a path is read from it**;
* `EntryTemplates.Files.Tree.mem_namesIn` — the names in a directory;
* `EntryTemplates.Files.Tree.SamePlace.read` — **other files are read as before**.
-/

import EntryTemplates.Files.Tree
import Mathlib.Data.List.Nodup
import Mathlib.Tactic.Common

set_option relaxedAutoImplicit false
set_option autoImplicit false

namespace EntryTemplates.Files

/-- Whether an entry is a file. -/
def Entry.isFile : Entry → Bool
  | .file _ => true
  | .directory => false

theorem Entry.eq_directory {e : Entry} (h : e.isFile = false) : e = .directory := by
  cases e with
  | file bytes => simp [isFile] at h
  | directory => rfl

theorem Entry.exists_bytes {e : Entry} (h : e.isFile = true) : ∃ bytes, e = .file bytes := by
  cases e with
  | file bytes => exact ⟨bytes, rfl⟩
  | directory => simp [isFile] at h

/-- Where a walk ends, and at what kind of entry, if there is one. -/
def Place.kind : Place → Location × Option Bool
  | .taken location e => (location, some e.isFile)
  | .free location => (location, none)

deriving instance DecidableEq for Tree

namespace Tree

/-! ### Single walks -/

theorem walk_nil (t : Tree) (location : Location) (e : Entry) :
    t.walk location e [] = .ok (.taken location e) := by
  cases e <;> rfl

theorem walk_cons (t : Tree) (location : Location) (part : String) (rest : List String) :
    t.walk location .directory (part :: rest) =
      if t.Denies .search location then .error .denied
      else if part = ".." then t.walk location.dropLast .directory rest
      else if nameLimit < part.utf8ByteSize then .error .nameTooLong
      else
        match t.at? (location ++ [part]) with
        | some e => t.walk (location ++ [part]) e rest
        | none =>
            match rest with
            | [] => .ok (.free (location ++ [part]))
            | _ :: _ => .error .noSuchEntry := rfl

/-- The walks that succeed, part by part: up, down into a directory, or to a last name, which may be
that of a file or free.  Every part leads through a directory that may be searched. -/
inductive Walks (t : Tree) : Location → List String → Place → Prop where
  | stop {start : Location} : Walks t start [] (.taken start .directory)
  | up {start : Location} {parts : List String} {place : Place}
      (hopen : ¬ t.Denies .search start) (h : Walks t start.dropLast parts place) :
      Walks t start (".." :: parts) place
  | down {start : Location} {part : String} {parts : List String} {place : Place}
      (hopen : ¬ t.Denies .search start) (hup : part ≠ "..")
      (hshort : part.utf8ByteSize ≤ nameLimit)
      (hat : t.at? (start ++ [part]) = some .directory)
      (h : Walks t (start ++ [part]) parts place) : Walks t start (part :: parts) place
  | file {start : Location} {part : String} {bytes : ByteArray}
      (hopen : ¬ t.Denies .search start) (hup : part ≠ "..")
      (hshort : part.utf8ByteSize ≤ nameLimit)
      (hat : t.at? (start ++ [part]) = some (.file bytes)) :
      Walks t start [part] (.taken (start ++ [part]) (.file bytes))
  | free {start : Location} {part : String} (hopen : ¬ t.Denies .search start)
      (hup : part ≠ "..") (hshort : part.utf8ByteSize ≤ nameLimit)
      (hat : t.at? (start ++ [part]) = none) :
      Walks t start [part] (.free (start ++ [part]))

theorem Walks.eq_ok {t : Tree} {start : Location} {parts : List String} {place : Place}
    (h : t.Walks start parts place) : t.walk start .directory parts = .ok place := by
  induction h with
  | stop => exact walk_nil _ _ _
  | up hopen h ih => rwa [walk_cons, if_neg hopen, if_pos rfl]
  | down hopen hup hshort hat h ih =>
      rwa [walk_cons, if_neg hopen, if_neg hup, if_neg (by omega), hat]
  | file hopen hup hshort hat =>
      rw [walk_cons, if_neg hopen, if_neg hup, if_neg (by omega), hat]
      rfl
  | free hopen hup hshort hat =>
      rw [walk_cons, if_neg hopen, if_neg hup, if_neg (by omega), hat]

/-- **Which walks succeed, and where they end.** -/
theorem walk_eq_ok {t : Tree} {start : Location} {parts : List String} {place : Place} :
    t.walk start .directory parts = .ok place ↔ t.Walks start parts place := by
  refine ⟨fun h => ?_, Walks.eq_ok⟩
  induction parts generalizing start with
  | nil =>
      rw [walk_nil] at h
      obtain rfl := Except.ok.inj h
      exact .stop
  | cons part parts ih =>
      rw [walk_cons] at h
      split at h
      · cases h
      rename_i hopen
      by_cases hup : part = ".."
      · rw [if_pos hup] at h
        subst hup
        exact .up hopen (ih h)
      · by_cases hlong : nameLimit < part.utf8ByteSize
        · simp [hup, hlong] at h
        · rw [if_neg hup, if_neg hlong] at h
          have hshort : part.utf8ByteSize ≤ nameLimit := by omega
          cases hat : t.at? (start ++ [part]) with
          | none =>
              rw [hat] at h
              cases parts with
              | nil =>
                  obtain rfl := Except.ok.inj h
                  exact .free hopen hup hshort hat
              | cons next parts => simp at h
          | some e =>
              simp only [hat] at h
              cases e with
              | directory => exact .down hopen hup hshort hat (ih h)
              | file bytes =>
                  cases parts with
                  | nil =>
                      rw [walk_nil] at h
                      obtain rfl := Except.ok.inj h
                      exact .file hopen hup hshort hat
                  | cons next parts => simp [walk] at h

/-- A walk that may end in writing: at a file that may be written to, or at a free name in a
directory that may. -/
def Writable (t : Tree) (start location : Location) (parts : List String) : Prop :=
  t.Walks start parts (.free location) ∧ ¬ t.Denies .write location.dropLast ∨
    (∃ old, t.Walks start parts (.taken location (.file old))) ∧ ¬ t.Denies .write location

namespace Walks

variable {t : Tree} {start location : Location} {part : String} {parts : List String}
  {place : Place}

/-- A walk of one part to an entry. -/
theorem last {e : Entry} (hopen : ¬ t.Denies .search start) (hup : part ≠ "..")
    (hshort : part.utf8ByteSize ≤ nameLimit)
    (hat : t.at? (start ++ [part]) = some e) :
    t.Walks start [part] (.taken (start ++ [part]) e) := by
  cases e with
  | directory => exact .down hopen hup hshort hat .stop
  | file bytes => exact .file hopen hup hshort hat

/-- A walk that ends at a file ends at what stands there. -/
theorem at?_of_file {bytes : ByteArray}
    (h : t.Walks start parts (.taken location (.file bytes))) :
    t.at? location = some (.file bytes) := by
  generalize hplace : Place.taken location (.file bytes) = place at h
  induction h with
  | stop => simp at hplace
  | up hopen h ih => exact ih hplace
  | down hopen hup hshort hat h ih => exact ih hplace
  | file hopen hup hshort hat =>
      obtain ⟨rfl, heq⟩ := Place.taken.inj hplace
      rw [hat, heq]
  | free hopen hup hshort hat => simp at hplace

/-- A walk that ends at a free name ends where nothing stands. -/
theorem at?_of_free (h : t.Walks start parts (.free location)) : t.at? location = none := by
  generalize hplace : Place.free location = place at h
  induction h with
  | stop => simp at hplace
  | up hopen h ih => exact ih hplace
  | down hopen hup hshort hat h ih => exact ih hplace
  | file hopen hup hshort hat => simp at hplace
  | free hopen hup hshort hat =>
      obtain rfl := Place.free.inj hplace
      exact hat

/-- What was put where a walk may end in writing is found by the same walk. -/
theorem put (h : t.Walks start parts place)
    (hplace : place = .free location ∨ ∃ old, place = .taken location (.file old)) (e : Entry) :
    (t.put location e).Walks start parts (.taken location e) := by
  have hnot : t.at? location ≠ some .directory := by
    rcases hplace with rfl | ⟨old, rfl⟩
    · simp [h.at?_of_free]
    · simp [h.at?_of_file]
  induction h with
  | stop => simp at hplace
  | up hopen h ih => exact .up hopen (ih hplace)
  | @down start part parts place hopen hup hshort hat h ih =>
      -- what is on the way is a directory, and so is not what was put
      have hne : start ++ [part] ≠ location := by
        rintro rfl
        exact hnot hat
      exact .down hopen hup hshort ((at?_put_of_ne _ hne _).trans hat) (ih hplace)
  | file hopen hup hshort hat =>
      obtain ⟨old, hplace⟩ := hplace.resolve_left (by simp)
      obtain ⟨rfl, -⟩ := Place.taken.inj hplace
      exact .last hopen hup hshort (at?_put_self _ (by simp) _)
  | free hopen hup hshort hat =>
      obtain rfl := Place.free.inj (hplace.resolve_right (by simp))
      exact .last hopen hup hshort (at?_put_self _ (by simp) _)

end Walks

/-! ### Writing and reading -/

/-- A path that may be walked at all. -/
structure Walkable (t : Tree) (p : Path) : Prop where
  noNull : hasNull p = false
  short : p.text.utf8ByteSize ≤ pathLimit
  /-- The working directory may be searched, if the path leads through it. -/
  opens : p.isAbsolute = false → ¬ t.Denies .search t.here

theorem locate_eq_ok {t : Tree} {p : Path} {place : Place} :
    t.locate p = .ok place ↔
      t.Walkable p ∧ t.Walks (t.start p) p.parts place := by
  rw [locate, ← walk_eq_ok]
  constructor
  · intro h
    split at h
    · cases h
    · rename_i hnull
      split at h
      · cases h
      · rename_i hshort
        split at h
        · cases h
        · rename_i hopen
          refine ⟨⟨Bool.eq_false_iff.2 hnull, Nat.not_lt.1 hshort, not_and.1 hopen⟩, ?_⟩
          split at h
          · rename_i hwalk
            rw [hwalk, Except.ok.inj h]
          · cases h
  · rintro ⟨⟨hnull, hshort, hopen⟩, hwalk⟩
    rw [if_neg (by simp [hnull]), if_neg (Nat.not_lt.2 hshort), if_neg (not_and.2 hopen), hwalk]

theorem add_eq_ok {t t' : Tree} {p : Path} {location : Location} {e : Entry} :
    t.add p location e = .ok t' ↔
      ¬ t.Denies .write location.dropLast ∧ t' = t.put location e := by
  rw [add]
  split
  · simp [*]
  · simp [*, eq_comm]

/-- What a path has to lead to for something to be written there. -/
theorem write_eq_ok {t t' : Tree} {p : Path} {bytes : ByteArray} :
    t.write p bytes = .ok t' ↔
      ∃ location, t.Walkable p ∧ t.Writable (t.start p) location p.parts ∧
        t' = t.put location (.file bytes) := by
  constructor
  · intro h
    rw [write] at h
    split at h
    · rename_i location old hplace
      obtain ⟨hp, hwalk⟩ := locate_eq_ok.1 hplace
      split at h
      · cases h
      · rename_i hallowed
        exact ⟨location, hp, Or.inr ⟨⟨old, hwalk⟩, hallowed⟩, (Except.ok.inj h).symm⟩
    · exact absurd h (by simp)
    · rename_i location hplace
      obtain ⟨hp, hwalk⟩ := locate_eq_ok.1 hplace
      obtain ⟨hallowed, rfl⟩ := add_eq_ok.1 h
      exact ⟨location, hp, Or.inl ⟨hwalk, hallowed⟩, rfl⟩
    · exact absurd h (by simp)
  · rintro ⟨location, hp, ⟨hwalk, hallowed⟩ | ⟨⟨old, hwalk⟩, hallowed⟩, rfl⟩
    · rw [write, locate_eq_ok.2 ⟨hp, hwalk⟩]
      exact add_eq_ok.2 ⟨hallowed, rfl⟩
    · rw [write, locate_eq_ok.2 ⟨hp, hwalk⟩]
      exact if_neg hallowed

theorem Walkable.put {t : Tree} {p : Path} (h : t.Walkable p) (location : Location) (e : Entry) :
    (t.put location e).Walkable p := ⟨h.noNull, h.short, h.opens⟩

theorem Writable.locate_put {t : Tree} {p : Path} {location : Location} (hp : t.Walkable p)
    (h : t.Writable (t.start p) location p.parts) (bytes : ByteArray) :
    (t.put location (.file bytes)).locate p = .ok (.taken location (.file bytes)) := by
  rcases h with ⟨hwalk, -⟩ | ⟨⟨old, hwalk⟩, -⟩
  · exact locate_eq_ok.2 ⟨hp.put _ _, hwalk.put (Or.inl rfl) _⟩
  · exact locate_eq_ok.2 ⟨hp.put _ _, hwalk.put (Or.inr ⟨old, rfl⟩) _⟩

/-- **Where something was written, it is found.** -/
theorem locate_write {t t' : Tree} {p : Path} {bytes : ByteArray}
    (h : t.write p bytes = .ok t') :
    ∃ location, t'.locate p = .ok (.taken location (.file bytes)) := by
  obtain ⟨location, hp, hwritable, rfl⟩ := write_eq_ok.1 h
  exact ⟨location, hwritable.locate_put hp bytes⟩

/-- What stands where a path leads may be read. -/
def MayRead (t : Tree) (p : Path) : Prop :=
  ∀ location e, t.locate p = .ok (.taken location e) → ¬ t.Denies .read location

theorem read_of_locate {t : Tree} {p : Path} {location : Location} {bytes : ByteArray}
    (h : t.locate p = .ok (.taken location (.file bytes))) (hmay : t.MayRead p) :
    t.read p = .ok bytes := by
  rw [read, h]
  exact if_neg (hmay _ _ h)

/-! ### The names in a directory -/

/-- A tree that lists no location twice. -/
def Distinct (t : Tree) : Prop := (t.entries.map Prod.fst).Nodup

theorem distinct_put {t : Tree} (h : t.Distinct) (location : Location) (e : Entry) :
    (t.put location e).Distinct := by
  rw [Distinct, put, List.map_cons, List.nodup_cons]
  refine ⟨?_, h.sublist (List.filter_sublist.map _)⟩
  simp

theorem isSome_at? {t : Tree} {location : Location} (h : location ≠ []) :
    (t.at? location).isSome = true ↔ location ∈ t.entries.map Prod.fst := by
  rw [at?, if_neg h]
  induction t.entries with
  | nil => simp
  | cons item rest ih =>
      rw [List.lookup_cons, List.map_cons, List.mem_cons]
      by_cases hitem : location = item.1
      · simp [hitem]
      · have hbeq : (location == item.1) = false := by simpa using hitem
        simp only [hbeq, ih, hitem, false_or]

/-- The name of an entry in a directory, if it stands in it. -/
def nameIn? (above location : Location) : Option String :=
  match location.getLast? with
  | some name => if location.dropLast = above then some name else none
  | none => none

theorem nameIn?_eq_some {above location : Location} {name : String} :
    nameIn? above location = some name ↔ above ++ [name] = location := by
  rw [nameIn?]
  constructor
  · intro h
    split at h
    · rename_i last hlast
      split at h
      · rename_i habove
        obtain rfl := Option.some.inj h
        rw [← habove]
        exact List.dropLast_append_getLast? last hlast
      · exact absurd h (by simp)
    · exact absurd h (by simp)
  · rintro rfl
    simp

theorem namesIn_eq (t : Tree) (location : Location) :
    t.namesIn location = (t.entries.map Prod.fst).filterMap (nameIn? location) := by
  rw [List.filterMap_map]
  rfl

/-- **The names in a directory are those under which an entry stands.** -/
theorem mem_namesIn {t : Tree} {location : Location} {name : String} :
    name ∈ t.namesIn location ↔ (t.at? (location ++ [name])).isSome = true := by
  rw [isSome_at? (by simp), namesIn_eq, List.mem_filterMap]
  constructor
  · rintro ⟨item, hitem, hname⟩
    rwa [nameIn?_eq_some.1 hname]
  · intro h
    exact ⟨_, h, nameIn?_eq_some.2 rfl⟩

theorem nodup_namesIn {t : Tree} (h : t.Distinct) (location : Location) :
    (t.namesIn location).Nodup := by
  rw [namesIn_eq]
  refine h.filterMap fun a a' name ha ha' => ?_
  rw [← nameIn?_eq_some.1 ha, nameIn?_eq_some.1 ha']

/-! ### Trees with the same kinds of entries -/

/-- Two outcomes of a walk that differ at most in the content of a file that was changed. -/
def SamePlace (changed : List Location) (r r' : Except Failure Place) : Prop :=
  (∃ e, r = .error e ∧ r' = .error e) ∨
    (∃ location, r = .ok (.free location) ∧ r' = .ok (.free location)) ∨
    (∃ location, r = .ok (.taken location .directory) ∧ r' = .ok (.taken location .directory)) ∨
    ∃ location bytes bytes', r = .ok (.taken location (.file bytes)) ∧
      r' = .ok (.taken location (.file bytes')) ∧ (location ∉ changed → bytes' = bytes)

theorem SamePlace.refl (changed : List Location) (r : Except Failure Place) :
    SamePlace changed r r := by
  rcases r with e | ⟨location, bytes | _⟩ | location
  · exact Or.inl ⟨e, rfl, rfl⟩
  · exact Or.inr (Or.inr (Or.inr ⟨location, bytes, bytes, rfl, rfl, fun _ => rfl⟩))
  · exact Or.inr (Or.inr (Or.inl ⟨location, rfl, rfl⟩))
  · exact Or.inr (Or.inl ⟨location, rfl, rfl⟩)

theorem SamePlace.trans {changed : List Location} {r r' r'' : Except Failure Place}
    (h : SamePlace changed r r') (h' : SamePlace changed r' r'') : SamePlace changed r r'' := by
  rcases h with ⟨e, rfl, rfl⟩ | ⟨l, rfl, rfl⟩ | ⟨l, rfl, rfl⟩ | ⟨l, bytes, bytes', rfl, rfl, hsame⟩
  · exact h'
  · exact h'
  · exact h'
  · rcases h' with ⟨e, h', -⟩ | ⟨l', h', -⟩ | ⟨l', h', -⟩ | ⟨l', old, new, h', rfl, hsame'⟩
    · exact absurd h' (by simp)
    · exact absurd h' (by simp)
    · exact absurd h' (by simp)
    · obtain ⟨rfl, heq⟩ := Place.taken.inj (Except.ok.inj h')
      obtain rfl := Entry.file.inj heq
      refine Or.inr (Or.inr (Or.inr ⟨l, bytes, new, rfl, rfl, fun hl => ?_⟩))
      rw [hsame' hl, hsame hl]

/-- **A path that leads to no changed file is read as before.** -/
theorem SamePlace.read {changed : List Location} {t t' : Tree} {p : Path}
    (hdenied : t'.denied = t.denied) (h : SamePlace changed (t.locate p) (t'.locate p))
    (hp : ∀ location bytes, t.locate p = .ok (.taken location (.file bytes)) → location ∉ changed) :
    t'.read p = t.read p := by
  rcases h with ⟨e, ht, ht'⟩ | ⟨l, ht, ht'⟩ | ⟨l, ht, ht'⟩ | ⟨l, bytes, bytes', ht, ht', hsame⟩
  · rw [Tree.read, Tree.read, ht, ht']
  · rw [Tree.read, Tree.read, ht, ht']
  · simp only [Tree.read, ht, ht', denies_congr hdenied]
  · simp only [Tree.read, ht, ht', denies_congr hdenied, hsame (hp l bytes ht)]

/-- Two trees that differ in the contents of some files only, whose locations are `changed`. -/
structure SameBut (changed : List Location) (t t' : Tree) : Prop where
  here : t'.here = t.here
  denied : t'.denied = t.denied
  distinct : t.Distinct → t'.Distinct
  same : ∀ location, location ∉ changed → t'.at? location = t.at? location
  kind : ∀ location, (t'.at? location).map Entry.isFile = (t.at? location).map Entry.isFile

namespace SameBut

variable {changed : List Location} {t t' t'' : Tree}

theorem refl (changed : List Location) (t : Tree) : SameBut changed t t :=
  ⟨rfl, rfl, id, fun _ _ => rfl, fun _ => rfl⟩

theorem trans (h : SameBut changed t t') (h' : SameBut changed t' t'') :
    SameBut changed t t'' where
  here := h'.here.trans h.here
  denied := h'.denied.trans h.denied
  distinct := h'.distinct ∘ h.distinct
  same location hl := (h'.same location hl).trans (h.same location hl)
  kind location := (h'.kind location).trans (h.kind location)

theorem start (h : SameBut changed t t') (p : Path) : t'.start p = t.start p := by
  rw [Tree.start, Tree.start, h.here]

/-- A walk ends at the same place, at an entry of the same kind. -/
theorem walk (h : SameBut changed t t') (location : Location) (e e' : Entry)
    (he : e'.isFile = e.isFile) (parts : List String) :
    (t'.walk location e' parts).map Place.kind = (t.walk location e parts).map Place.kind := by
  -- the kind of an entry is all that decides how a walk goes on from it
  induction parts generalizing location e e' with
  | nil => simp [walk_nil, Except.map, Place.kind, he]
  | cons part parts ih =>
      cases hfile : e.isFile with
      | true =>
          obtain ⟨bytes, rfl⟩ := Entry.exists_bytes hfile
          obtain ⟨bytes', rfl⟩ := Entry.exists_bytes (he.trans hfile)
          rfl
      | false =>
          obtain rfl := Entry.eq_directory hfile
          obtain rfl := Entry.eq_directory (he.trans hfile)
          simp only [walk_cons, denies_congr h.denied]
          split
          · rfl
          split
          · exact ih _ _ _ rfl
          split
          · rfl
          have hkind := h.kind (location ++ [part])
          cases hold : t.at? (location ++ [part]) with
          | none =>
              rw [hold, Option.map_none, Option.map_eq_none_iff] at hkind
              rw [hkind]
          | some old =>
              rw [hold] at hkind
              obtain ⟨new, hnew, hsame⟩ := Option.map_eq_some_iff.1 hkind
              rw [hnew]
              exact ih _ _ _ hsame

theorem map_locate (h : SameBut changed t t') (p : Path) :
    (t'.locate p).map Place.kind = (t.locate p).map Place.kind := by
  have hwalk := h.walk (t.start p) .directory .directory rfl p.parts
  simp only [Tree.locate, h.start, h.here, denies_congr h.denied]
  split
  · rfl
  split
  · rfl
  split
  · rfl
  · cases ht : t.walk (t.start p) .directory p.parts <;>
      cases ht' : t'.walk (t.start p) .directory p.parts <;>
      simp_all [Except.map]

/-- **A path leads to the same place in both trees.** -/
theorem locate_cases (h : SameBut changed t t') (p : Path) :
    SamePlace changed (t.locate p) (t'.locate p) := by
  have hkind := h.map_locate p
  cases ht : t.locate p with
  | error e =>
      cases ht' : t'.locate p with
      | error e' =>
          simp only [ht, ht', Except.map, Except.error.injEq] at hkind
          exact Or.inl ⟨e, rfl, by rw [hkind]⟩
      | ok place' => simp [ht, ht', Except.map] at hkind
  | ok place =>
      cases ht' : t'.locate p with
      | error e' => simp [ht, ht', Except.map] at hkind
      | ok place' =>
          rw [ht, ht'] at hkind
          have hsame : place'.kind = place.kind := Except.ok.inj hkind
          cases place with
          | free location =>
              cases place' with
              | free location' =>
                  obtain rfl : location' = location := (Prod.mk.inj hsame).1
                  exact Or.inr (Or.inl ⟨location', rfl, rfl⟩)
              | taken location' e' => simp [Place.kind] at hsame
          | taken location e =>
              cases place' with
              | free location' => simp [Place.kind] at hsame
              | taken location' e' =>
                  obtain rfl : location' = location := (Prod.mk.inj hsame).1
                  have hfile : e'.isFile = e.isFile := Option.some.inj (Prod.mk.inj hsame).2
                  cases e with
                  | directory =>
                      obtain rfl := Entry.eq_directory hfile
                      exact Or.inr (Or.inr (Or.inl ⟨location', rfl, rfl⟩))
                  | file bytes =>
                      obtain ⟨bytes', rfl⟩ := Entry.exists_bytes hfile
                      refine Or.inr (Or.inr (Or.inr ⟨location', bytes, bytes', rfl, rfl, ?_⟩))
                      intro hlocation
                      -- at a location that was not changed both walks find the same file
                      have hold := (locate_eq_ok.1 ht).2.at?_of_file
                      have hnew := (locate_eq_ok.1 ht').2.at?_of_file
                      rw [h.same _ hlocation, hold] at hnew
                      exact (Entry.file.inj (Option.some.inj hnew)).symm

/-- What may be read in one tree may be read in the other. -/
theorem mayRead_iff (h : SameBut changed t t') {p : Path} : t'.MayRead p ↔ t.MayRead p := by
  simp only [MayRead, denies_congr h.denied]
  rcases h.locate_cases p with
    ⟨e, ht, ht'⟩ | ⟨l, ht, ht'⟩ | ⟨l, ht, ht'⟩ | ⟨l, bytes, bytes', ht, ht', -⟩ <;>
    simp [ht, ht']

theorem isSome_at? (h : SameBut changed t t') (location : Location) :
    (t'.at? location).isSome = (t.at? location).isSome := by
  have hkind := congrArg Option.isSome (h.kind location)
  rwa [Option.isSome_map, Option.isSome_map] at hkind

/-- The same names are in each directory. -/
theorem mem_namesIn (h : SameBut changed t t') {location : Location} {name : String} :
    name ∈ t'.namesIn location ↔ name ∈ t.namesIn location := by
  rw [Tree.mem_namesIn, Tree.mem_namesIn, h.isSome_at?]

theorem perm_namesIn (h : SameBut changed t t') (hdistinct : t.Distinct) (location : Location) :
    (t'.namesIn location).Perm (t.namesIn location) := by
  rw [List.perm_ext_iff_of_nodup (nodup_namesIn (h.distinct hdistinct) _)
    (nodup_namesIn hdistinct _)]
  exact fun _ => h.mem_namesIn

/-- A path that leads to a directory still does. -/
theorem locate_directory (h : SameBut changed t t') {p : Path} {location : Location}
    (hp : t.locate p = .ok (.taken location .directory)) :
    t'.locate p = .ok (.taken location .directory) := by
  rcases h.locate_cases p with
    ⟨e, ht, ht'⟩ | ⟨l, ht, ht'⟩ | ⟨l, ht, ht'⟩ | ⟨l, _, _, ht, ht', -⟩ <;>
    simp_all

/-- A path that leads to a file still does, and unless the file was changed it holds the same. -/
theorem locate_file (h : SameBut changed t t') {p : Path} {location : Location} {bytes : ByteArray}
    (hp : t.locate p = .ok (.taken location (.file bytes))) :
    ∃ bytes', t'.locate p = .ok (.taken location (.file bytes')) ∧
      (location ∉ changed → bytes' = bytes) := by
  rcases h.locate_cases p with
    ⟨e, ht, -⟩ | ⟨l, ht, -⟩ | ⟨l, ht, -⟩ | ⟨l, old, new, ht, ht', hsame⟩
  · exact absurd (hp.symm.trans ht) (by simp)
  · exact absurd (hp.symm.trans ht) (by simp)
  · exact absurd (hp.symm.trans ht) (by simp)
  · obtain ⟨rfl, heq⟩ := Place.taken.inj (Except.ok.inj (hp.symm.trans ht))
    obtain rfl := Entry.file.inj heq
    exact ⟨new, ht', hsame⟩

/-- Bytes added to a changed file. -/
theorem append {location : Location} (hlocation : location ∈ changed) (t : Tree)
    (bytes : ByteArray) : SameBut changed t (t.append location bytes) := by
  rw [Tree.append]
  split
  · rename_i old hold
    have hne : location ≠ [] := by
      rintro rfl
      simp [at?] at hold
    refine ⟨rfl, rfl, fun h => distinct_put h _ _, fun other hother => ?_, fun other => ?_⟩
    · refine at?_put_of_ne t ?_ _
      rintro rfl
      exact hother hlocation
    · by_cases heq : other = location
      · subst heq
        rw [at?_put_self t hne, hold]
        rfl
      · rw [at?_put_of_ne t heq]
  · exact refl changed t

end SameBut

end Tree

end EntryTemplates.Files
