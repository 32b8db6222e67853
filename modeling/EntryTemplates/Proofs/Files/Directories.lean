/-
**What stands in a directory.**

Where the path of a directory leads is all that is needed to say where the names in it lead.  A
change at one name leaves the other names alone, and making a directory that is missing puts nothing
into it.

Main definitions:

* `EntryTemplates.Files.Tree.Proper` — trees in which every entry has a proper name and stands in a
  directory;
* `EntryTemplates.Files.Tree.IsAt`, `EntryTemplates.Files.Tree.Listable` — a path leads to a
  directory, and its names may be read;
* `EntryTemplates.Files.Tree.KeptBut` — a directory in which nothing but some names has changed.

Main results:

* `EntryTemplates.Files.Tree.IsAt.walk_child` — where a name in a directory leads;
* `EntryTemplates.Files.Tree.IsAt.write_child` — **what writing to one name does**;
* `EntryTemplates.Files.Tree.makeDirectories_of_isAt`,
  `EntryTemplates.Files.Tree.isAt_of_makeDirectories` — **what making a directory does**.
-/

import EntryTemplates.Proofs.Files.Growth
import EntryTemplates.Proofs.Files.Names

set_option relaxedAutoImplicit false
set_option autoImplicit false

namespace EntryTemplates.Files.Tree

/-! ### The names in a directory -/

/-- A walk to a directory goes on from there. -/
theorem Walks.append {t : Tree} {start location : Location} {parts : List String}
    (h : t.Walks start parts (.taken location .directory)) (rest : List String) :
    t.walk start .directory (parts ++ rest) = t.walk location .directory rest := by
  generalize hplace : Place.taken location .directory = place at h
  induction h with
  | stop =>
      obtain ⟨rfl, -⟩ := Place.taken.inj hplace
      rfl
  | up hopen h ih => rw [List.cons_append, walk_cons, if_neg hopen, if_pos rfl, ih hplace]
  | down hopen hup hshort hat h ih =>
      rw [List.cons_append, walk_cons, if_neg hopen, if_neg hup, if_neg (by omega), hat]
      exact ih hplace
  | file hopen hup hshort hat => simp at hplace
  | free hopen hup hshort hat => simp at hplace

/-- A path leads to the directory at a location. -/
def IsAt (t : Tree) (folder : Path) (location : Location) : Prop :=
  t.locate folder = .ok (.taken location .directory)

/-- A path leads to the directory at a location, and its names may be read. -/
structure Listable (t : Tree) (folder : Path) (location : Location) : Prop where
  isAt : t.IsAt folder location
  allowed : ¬ t.Denies .read location

namespace IsAt

variable {t t' : Tree} {folder : Path} {location : Location} {name name' : String}

theorem unique {other : Location} (h : t.IsAt folder location) (h' : t.IsAt folder other) :
    location = other :=
  (Place.taken.inj (Except.ok.inj (h.symm.trans h'))).1

theorem walk_child (h : t.IsAt folder location) (hname : IsName name) :
    t.walk (t.start (folder.child name)) .directory (folder.child name).parts =
      t.walk location .directory [name] := by
  have hstart : t.start (folder.child name) = t.start folder := by
    rw [Path.child_of_isName _ hname]
    rfl
  rw [hstart, Path.child_of_isName _ hname]
  exact (locate_eq_ok.1 h).2.append [name]

/-- Names that hold the same lead to the same place. -/
theorem locate_child_congr (h : t.IsAt folder location) (h' : t'.IsAt folder location)
    (hhere : t'.here = t.here) (hdenied : t'.denied = t.denied) (hname : IsName name)
    (hat : t'.at? (location ++ [name]) = t.at? (location ++ [name])) :
    t'.locate (folder.child name) = t.locate (folder.child name) := by
  simp only [locate, h.walk_child hname, h'.walk_child hname, walk_cons, hat, hhere,
    denies_congr hdenied]
  cases t.at? (location ++ [name]) with
  | none => rfl
  | some e => simp only [walk_nil]

/-- **Where a name in a directory leads**, if it leads anywhere. -/
theorem eq_of_locate_child (h : t.IsAt folder location) (hname : IsName name) {place : Place}
    (hplace : t.locate (folder.child name) = .ok place) :
    place = match t.at? (location ++ [name]) with
      | some e => .taken (location ++ [name]) e
      | none => .free (location ++ [name]) := by
  have hwalk := (locate_eq_ok.1 hplace).2.eq_ok
  rw [h.walk_child hname, walk_eq_ok] at hwalk
  cases hwalk with
  | up => exact absurd rfl hname.notUp
  | down hopen hup hshort hat hstop =>
      rw [hat]
      cases hstop
      rfl
  | file hopen hup hshort hat => rw [hat]
  | free hopen hup hshort hat => rw [hat]

/-- The location of a file is that of the name which leads to it. -/
theorem location_of_file (h : t.IsAt folder location) (hname : IsName name) {other : Location}
    {bytes : ByteArray} (hplace : t.locate (folder.child name) = .ok (.taken other (.file bytes))) :
    other = location ++ [name] ∧ t.at? (location ++ [name]) = some (.file bytes) := by
  have hplace := h.eq_of_locate_child hname hplace
  cases hat : t.at? (location ++ [name]) with
  | none => simp [hat] at hplace
  | some e =>
      rw [hat] at hplace
      obtain ⟨rfl, rfl⟩ := Place.taken.inj hplace
      exact ⟨rfl, rfl⟩

end IsAt

/-! ### Writing to one name -/

/-- A walk to a directory does not change when a file is put where no directory stands. -/
theorem Walks.put_of_ne {t : Tree} {start location changed : Location} {parts : List String}
    (h : t.Walks start parts (.taken location .directory))
    (hchanged : t.at? changed ≠ some .directory) (e : Entry) :
    (t.put changed e).Walks start parts (.taken location .directory) := by
  generalize hplace : Place.taken location .directory = place at h
  induction h with
  | stop => exact .stop
  | up hopen h ih => exact .up hopen (ih hplace)
  | @down start part parts place hopen hup hshort hat h ih =>
      have hne : start ++ [part] ≠ changed := by
        rintro rfl
        exact hchanged hat
      exact .down hopen hup hshort ((at?_put_of_ne _ hne _).trans hat) (ih hplace)
  | file hopen hup hshort hat => simp at hplace
  | free hopen hup hshort hat => simp at hplace

/-- Writing to a name in a directory puts a file under this name, where no directory stands. -/
theorem IsAt.eq_put_of_write {t t' : Tree} {folder : Path} {location : Location} {name : String}
    {bytes : ByteArray} (h : t.IsAt folder location) (hname : IsName name)
    (hwrite : t.write (folder.child name) bytes = .ok t') :
    t' = t.put (location ++ [name]) (.file bytes) ∧
      t.at? (location ++ [name]) ≠ some .directory := by
  obtain ⟨place, hwalkable, hwalk, rfl⟩ := write_eq_ok.1 hwrite
  -- the path leads to the name in the directory, whether something stands there or not
  rcases hwalk with ⟨hfree, -⟩ | ⟨⟨old, hfile⟩, -⟩
  · have hfree := h.eq_of_locate_child hname (locate_eq_ok.2 ⟨hwalkable, hfree⟩)
    split at hfree
    · exact absurd hfree (by simp)
    · rename_i hat
      rw [Place.free.inj hfree]
      exact ⟨rfl, by simp [hat]⟩
  · obtain ⟨rfl, hat⟩ := h.location_of_file hname (locate_eq_ok.2 ⟨hwalkable, hfile⟩)
    exact ⟨rfl, by simp [hat]⟩

/-- **What writing to one name in a directory does.** -/
theorem IsAt.write_child {t t' : Tree} {folder : Path} {location : Location} {name : String}
    {bytes : ByteArray} (h : t.IsAt folder location) (hname : IsName name)
    (hwrite : t.write (folder.child name) bytes = .ok t') :
    t'.IsAt folder location ∧ t'.at? (location ++ [name]) = some (.file bytes) ∧
      ∀ other, other ≠ name → t'.at? (location ++ [other]) = t.at? (location ++ [other]) := by
  obtain ⟨rfl, hat⟩ := h.eq_put_of_write hname hwrite
  obtain ⟨hfolder, hwalk⟩ := locate_eq_ok.1 h
  refine ⟨locate_eq_ok.2 ⟨hfolder.put _ _, hwalk.put_of_ne hat _⟩, at?_put_self _ (by simp) _,
    fun other hother => at?_put_of_ne _ (fun heq => hother ?_) _⟩
  exact List.singleton_injective (List.append_cancel_left heq)

/-- A name that is said to be free is free, if it can be written to at all. -/
theorem IsAt.at?_of_not_contains {t t' : Tree} {folder : Path} {location : Location} {name : String}
    {bytes : ByteArray} (h : t.IsAt folder location) (hname : IsName name)
    (hwrite : t.write (folder.child name) bytes = .ok t')
    (hfree : t.contains (folder.child name) = .ok false) : t.at? (location ++ [name]) = none := by
  obtain ⟨place, hplace⟩ : ∃ place, t.locate (folder.child name) = .ok place := by
    obtain ⟨other, hwalkable, ⟨hwalk, -⟩ | ⟨⟨old, hwalk⟩, -⟩, -⟩ := write_eq_ok.1 hwrite
    · exact ⟨_, locate_eq_ok.2 ⟨hwalkable, hwalk⟩⟩
    · exact ⟨_, locate_eq_ok.2 ⟨hwalkable, hwalk⟩⟩
  have hwhere := h.eq_of_locate_child hname hplace
  cases hat : t.at? (location ++ [name]) with
  | none => rfl
  | some e =>
      rw [hat] at hwhere
      simp [contains, inspect, hplace, hwhere, Except.map] at hfree

/-- A name that is free can be written to, if its directory can. -/
theorem IsAt.write_free {t : Tree} {folder : Path} {location : Location} {name : String}
    (h : t.IsAt folder location) (hname : IsName name) (hwalkable : t.Walkable (folder.child name))
    (hsearch : ¬ t.Denies .search location) (hallowed : ¬ t.Denies .write location)
    (hshort : name.utf8ByteSize ≤ nameLimit) (hfree : t.at? (location ++ [name]) = none)
    (bytes : ByteArray) :
    t.write (folder.child name) bytes = .ok (t.put (location ++ [name]) (.file bytes)) := by
  refine write_eq_ok.2 ⟨location ++ [name], hwalkable, Or.inl ⟨?_, ?_⟩, rfl⟩
  · rw [← walk_eq_ok, h.walk_child hname, walk_eq_ok]
    exact .free hsearch hname.notUp hshort hfree
  · rwa [List.dropLast_concat]

/-! ### Making directories -/

theorem isDirectory_of_isAt {t : Tree} {folder : Path} {location : Location}
    (h : t.IsAt folder location) : t.isDirectory folder = .ok true := by
  rw [IsAt] at h
  simp [isDirectory, inspect, h, Except.map]

theorem isAt_of_isDirectory {t : Tree} {folder : Path} (h : t.isDirectory folder = .ok true) :
    ∃ location, t.IsAt folder location := by
  rw [isDirectory, inspect] at h
  split at h
  · rename_i location e hplace
    cases e with
    | directory => exact ⟨location, hplace⟩
    | file bytes => exact absurd h (by simp [Except.map])
  · exact absurd h (by simp [Except.map])
  · split at h <;> exact absurd h (by simp [Except.map])
  · exact absurd h (by simp [Except.map])

/-- **A directory that is there is not made again.** -/
theorem makeDirectories_of_isAt {t : Tree} {folder : Path} {location : Location}
    (h : t.IsAt folder location) : t.makeDirectories folder = (t, .ok ()) := by
  have hensure : t.ensureDirectory folder = .ok t := by
    have hmake : t.makeDirectory folder = .error (.system .entryExists folder.text) := by
      rw [IsAt] at h
      rw [makeDirectory, h]
    rw [ensureDirectory, hmake]
    simp only [isDirectory_of_isAt h]
  rw [makeDirectories, makeDirectoriesUpTo]
  simp only [hensure]

/-- A walk that never goes up ends where its parts say. -/
theorem Walks.location_eq {t : Tree} {start : Location} {parts : List String} {place : Place}
    (h : t.Walks start parts place) (hup : ".." ∉ parts) : place.kind.1 = start ++ parts := by
  induction h with
  | stop => simp [Place.kind]
  | up hopen h ih => exact absurd List.mem_cons_self hup
  | down hopen hpart hshort hat h ih =>
      rw [List.mem_cons, not_or] at hup
      simpa using ih hup.2
  | file hopen hpart hshort hat => rfl
  | free hopen hpart hshort hat => rfl

/-- A tree in which a directory was made, together with those above it. -/
structure Made (t t' : Tree) (folder : Path) : Prop where
  here : t'.here = t.here
  denied : t'.denied = t.denied
  isAt : t'.IsAt folder (t.start folder ++ folder.parts)
  same : ∀ location, ¬ location <+: t.start folder ++ folder.parts →
    t'.at? location = t.at? location

theorem made_of_ensureDirectory {t t' : Tree} {folder : Path} (hup : ".." ∉ folder.parts)
    (h : t.ensureDirectory folder = .ok t') : Made t t' folder := by
  have hthere (htrue : t.isDirectory folder = .ok true) : Made t t folder := by
    obtain ⟨location, hlocation⟩ := isAt_of_isDirectory htrue
    have hkind := (locate_eq_ok.1 hlocation).2.location_eq hup
    exact ⟨rfl, rfl, by rwa [← hkind], fun _ _ => rfl⟩
  rw [ensureDirectory] at h
  split at h
  · rename_i made hmade
    obtain rfl := Except.ok.inj h
    rw [makeDirectory] at hmade
    split at hmade
    · exact absurd hmade (by simp)
    · rename_i location hfree
      obtain ⟨-, rfl⟩ := add_eq_ok.1 hmade
      obtain ⟨hfolder, hwalk⟩ := locate_eq_ok.1 hfree
      obtain rfl : location = t.start folder ++ folder.parts := hwalk.location_eq hup
      refine ⟨rfl, rfl, locate_eq_ok.2 ⟨hfolder.put _ _, hwalk.put (Or.inl rfl) _⟩,
        fun other hother => ?_⟩
      refine at?_put_of_ne _ ?_ _
      rintro rfl
      exact hother (List.prefix_refl _)
    · exact absurd hmade (by simp)
  · exact absurd h (by simp)
  · exact absurd h (by simp)
  · -- it could not be made because it is there
    split at h
    · rename_i htrue
      obtain rfl := Except.ok.inj h
      exact hthere htrue
    · exact absurd h (by simp)
    · exact absurd h (by simp)

theorem Made.trans {t t' t'' : Tree} {root : String} {parts : List String}
    (h : Made t t' ⟨root, parts.dropLast⟩) (h' : Made t' t'' ⟨root, parts⟩) :
    Made t t'' ⟨root, parts⟩ := by
  have hstart : ∀ parts, t'.start ⟨root, parts⟩ = t.start ⟨root, parts⟩ := fun parts => by
    rw [start, start, h.here]
  refine ⟨h'.here.trans h.here, h'.denied.trans h.denied, by simpa [hstart] using h'.isAt,
    fun other hother => ?_⟩
  rw [h'.same other (by simpa [hstart] using hother)]
  refine h.same other fun hbelow => hother (hbelow.trans ?_)
  exact (List.prefix_append_right_inj _).2 (List.dropLast_prefix parts)

theorem made_of_makeDirectoriesUpTo {root : String} {fuel : Nat} {parts : List String} {t t' : Tree}
    (hup : ".." ∉ parts) (h : makeDirectoriesUpTo root fuel parts t = (t', .ok ())) :
    Made t t' ⟨root, parts⟩ := by
  induction fuel generalizing parts t' with
  | zero =>
      rw [makeDirectoriesUpTo] at h
      split at h
      · rename_i made hmade
        obtain rfl := (Prod.mk.inj h).1
        exact made_of_ensureDirectory hup hmade
      · simp at h
      · simp at h
  | succ fuel ih =>
      rw [makeDirectoriesUpTo] at h
      split at h
      · rename_i made hmade
        obtain rfl := (Prod.mk.inj h).1
        exact made_of_ensureDirectory hup hmade
      · dsimp only at h
        split at h
        · rename_i above habove
          have hmade := ih (fun hmem => hup (List.dropLast_subset parts hmem)) habove
          split at h
          · rename_i made hlast
            obtain rfl := (Prod.mk.inj h).1
            exact hmade.trans (made_of_ensureDirectory hup hlast)
          · simp at h
        · simp at h
      · simp at h

/-! ### Proper trees -/

/-- A tree in which every entry has a proper name and stands in a directory. -/
structure Proper (t : Tree) : Prop where
  isName : ∀ location name, (t.at? (location ++ [name])).isSome = true → IsName name
  above : ∀ location name, (t.at? (location ++ [name])).isSome = true →
    t.at? location = some .directory

theorem SameBut.proper {changed : List Location} {t t' : Tree} (h : SameBut changed t t')
    (ht : t.Proper) : t'.Proper := by
  refine ⟨fun location name hat => ?_, fun location name hat => ?_⟩
  · exact ht.isName location name (h.isSome_at? _ ▸ hat)
  · have hkind := h.kind location
    rw [ht.above location name (h.isSome_at? _ ▸ hat)] at hkind
    obtain ⟨e, he, hfile⟩ := Option.map_eq_some_iff.1 hkind
    rw [he, Entry.eq_directory hfile]

/-- Above a directory there are nothing but directories. -/
theorem Proper.at?_append {t : Tree} (h : t.Proper) {location rest : Location}
    (hat : t.at? (location ++ rest) = some .directory) : t.at? location = some .directory := by
  induction rest generalizing location with
  | nil => rwa [List.append_nil] at hat
  | cons name rest ih =>
      have hbelow : t.at? (location ++ [name]) = some .directory := ih (by simpa using hat)
      exact h.above _ name (by rw [hbelow]; rfl)

/-- A walk to a directory is possible in every proper tree that has one there. -/
theorem Proper.walks_of {t t' : Tree} (h : t.Proper) {start : Location} {parts : List String}
    {place : Place} (hdenied : t'.denied = t.denied) (hwalk : t'.Walks start parts place)
    (hup : ".." ∉ parts) (hat : t.at? (start ++ parts) = some .directory) :
    t.Walks start parts (.taken (start ++ parts) .directory) := by
  have hsearch {location : Location} (hopen : ¬ t'.Denies .search location) :
      ¬ t.Denies .search location := mt (denies_congr hdenied).2 hopen
  induction hwalk with
  | stop =>
      rw [List.append_nil]
      exact .stop
  | up hopen hwalk ih => exact absurd List.mem_cons_self hup
  | @down start part parts place hopen hpart hshort hold hwalk ih =>
      rw [List.mem_cons, not_or] at hup
      rw [List.append_cons] at hat ⊢
      exact .down (hsearch hopen) hpart hshort (h.at?_append hat) (ih hup.2 hat)
  | file hopen hpart hshort hold => exact .last (hsearch hopen) hpart hshort hat
  | free hopen hpart hshort hold => exact .last (hsearch hopen) hpart hshort hat

/-- A walk down to a directory ends where one stands. -/
theorem Walks.at?_of_directory {t : Tree} {start location : Location} {parts : List String}
    (h : t.Walks start parts (.taken location .directory)) (hup : ".." ∉ parts)
    (hparts : parts ≠ []) : t.at? location = some .directory := by
  generalize hplace : Place.taken location .directory = place at h
  induction h with
  | stop => exact absurd rfl hparts
  | up hopen h ih => exact absurd List.mem_cons_self hup
  | @down start part parts place hopen hpart hshort hat h ih =>
      by_cases hlast : parts = []
      · subst hlast hplace
        cases h
        exact hat
      · rw [List.mem_cons, not_or] at hup
        exact ih hup.2 hlast hplace
  | file hopen hpart hshort hat => simp at hplace
  | free hopen hpart hshort hat => simp at hplace

/-- **A directory that was made holds what it held before**: nothing, if it was missing. -/
theorem isAt_of_makeDirectories {t t' : Tree} {folder : Path} (h : t.Proper)
    (hfolder : (∃ location, t.IsAt folder location) ∨ ".." ∉ folder.parts)
    (hmade : t.makeDirectories folder = (t', .ok ())) :
    ∃ location, t'.here = t.here ∧ t'.denied = t.denied ∧ t'.IsAt folder location ∧
      (t' = t ∨ t.at? location = none ∧ ∀ name, name ∉ t'.namesIn location) := by
  by_cases hthere : ∃ location, t.IsAt folder location
  · obtain ⟨location, hlocation⟩ := hthere
    rw [makeDirectories_of_isAt hlocation] at hmade
    obtain rfl := (Prod.mk.inj hmade).1
    exact ⟨location, rfl, rfl, hlocation, Or.inl rfl⟩
  · have hup := hfolder.resolve_left hthere
    have hgrown := grown_makeDirectories t folder
    rw [hmade] at hgrown
    have hmade := made_of_makeDirectoriesUpTo hup hmade
    obtain ⟨hwalkable, hwalk⟩ := locate_eq_ok.1 hmade.isAt
    have hstart : t'.start folder = t.start folder := by rw [start, start, hmade.here]
    have hwalk := hstart ▸ hwalk
    have hwalkable : t.Walkable folder :=
      ⟨hwalkable.noNull, hwalkable.short, by
        simpa only [hmade.here, denies_congr hmade.denied] using hwalkable.opens⟩
    -- if a directory stood there before, the path led to it
    have hnot (hat : t.at? (t.start folder ++ folder.parts) = some .directory) : False :=
      hthere ⟨_, locate_eq_ok.2 ⟨hwalkable, h.walks_of hmade.denied hwalk hup hat⟩⟩
    have hparts : folder.parts ≠ [] := fun hnil =>
      hthere ⟨t.start folder, locate_eq_ok.2 ⟨hwalkable, hnil ▸ .stop⟩⟩
    refine ⟨_, hmade.here, hmade.denied, hmade.isAt, Or.inr ⟨?_, fun name hname => hnot ?_⟩⟩
    · have hat := hwalk.at?_of_directory hup hparts
      rcases hgrown.kept _ List.not_mem_nil with hsame | ⟨hnone, -⟩
      · exact (hnot (hsame ▸ hat)).elim
      · exact hnone
    · rw [mem_namesIn, hmade.same _ fun hbelow => by simpa using hbelow.length_le] at hname
      exact h.above _ _ hname

/-! ### Directories in which some names were written to -/

/-- A directory in which nothing but some names has changed, and the contents of files whose
locations are `changed`. -/
structure KeptBut (base t : Tree) (changed : List Location) (folder : Path) (location : Location)
    (written : List String) : Prop where
  here : t.here = base.here
  denied : t.denied = base.denied
  isAt : t.IsAt folder location
  /-- The directory is not new, or nothing stood in its place. -/
  before : base.IsAt folder location ∨ base.at? location = none
  others : ∀ name ∉ written, name ∈ t.namesIn location →
    base.IsAt folder location ∧ name ∈ base.namesIn location ∧
      SamePlace changed (base.locate (folder.child name)) (t.locate (folder.child name))

namespace KeptBut

variable {base t t' : Tree} {changed : List Location} {folder : Path} {location : Location}
  {written : List String}

theorem start (h : base.Proper)
    (hfolder : (∃ location, base.IsAt folder location) ∨ ".." ∉ folder.parts)
    (hmade : base.makeDirectories folder = (t, .ok ())) :
    ∃ location, KeptBut base t changed folder location [] := by
  obtain ⟨location, hhere, hdenied, hlocation, hsame⟩ := isAt_of_makeDirectories h hfolder hmade
  rcases hsame with rfl | ⟨hfree, hnone⟩
  · exact ⟨location, hhere, hdenied, hlocation, Or.inl hlocation,
      fun name _ hname => ⟨hlocation, hname, .refl _ _⟩⟩
  · exact ⟨location, hhere, hdenied, hlocation, Or.inr hfree,
      fun name _ hname => absurd hname (hnone name)⟩

/-- The names in the directory may be read, if they might be where it is not new. -/
theorem listable (h : KeptBut base t changed folder location written)
    (hallowed : base.IsAt folder location → ¬ base.Denies .read location) :
    t.Listable folder location := by
  refine ⟨h.isAt, mt (denies_congr h.denied).1 ?_⟩
  rcases h.before with hisAt | hfree
  · exact hallowed hisAt
  · exact not_denies_of_at? hfree .read

theorem isName_of_mem (h : KeptBut base t changed folder location written) (hbase : base.Proper)
    (hwritten : ∀ name ∈ written, IsName name) {name : String}
    (hname : name ∈ t.namesIn location) : IsName name := by
  by_cases hmem : name ∈ written
  · exact hwritten name hmem
  · obtain ⟨-, hold, -⟩ := h.others name hmem hname
    exact hbase.isName location name (mem_namesIn.1 hold)

theorem write (h : KeptBut base t changed folder location written) (hbase : base.Proper)
    {name : String} (hname : IsName name) {bytes : ByteArray}
    (hwrite : t.write (folder.child name) bytes = .ok t') :
    KeptBut base t' changed folder location (name :: written) := by
  obtain ⟨hisAt, -, hother⟩ := h.isAt.write_child hname hwrite
  obtain ⟨rfl, -⟩ := h.isAt.eq_put_of_write hname hwrite
  refine ⟨h.here, h.denied, hisAt, h.before, fun other hwritten hmem => ?_⟩
  rw [List.mem_cons, not_or] at hwritten
  have hsame := hother other hwritten.1
  obtain ⟨hfolder, hold, hplace⟩ := h.others other hwritten.2
    (by rwa [mem_namesIn, ← hsame, ← mem_namesIn])
  have hisName := hbase.isName location other (mem_namesIn.1 hold)
  refine ⟨hfolder, hold, ?_⟩
  rwa [h.isAt.locate_child_congr hisAt rfl rfl hisName hsame]

theorem sameBut (h : KeptBut base t changed folder location written)
    (hsame : SameBut changed t t') : KeptBut base t' changed folder location written := by
  refine ⟨hsame.here.trans h.here, hsame.denied.trans h.denied, hsame.locate_directory h.isAt,
    h.before, fun name hwritten hname => ?_⟩
  obtain ⟨hfolder, hold, hplace⟩ := h.others name hwritten (hsame.mem_namesIn.1 hname)
  exact ⟨hfolder, hold, hplace.trans (hsame.locate_cases _)⟩

end KeptBut

end EntryTemplates.Files.Tree
