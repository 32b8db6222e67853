/-
**The location of a path.**

Without looking at a tree a path has a location, where two dots take back the part before them.  If
the path leads anywhere, it leads there.  A file is opened at its location, which keeps all files
and adds an empty one at most.

Main definitions:

* `EntryTemplates.Files.Tree.KeepsFiles` — all files of a tree stand in another, with their bytes.

Main results:

* `EntryTemplates.Files.Tree.location_of_locate` — **a path leads to its location**, if it leads
  anywhere;
* `EntryTemplates.Files.Tree.isAt_parent` — what leads to a file leads to its directory;
* `EntryTemplates.Files.Tree.ensureFile_eq_ok` — what opening a file does;
* `EntryTemplates.Files.Tree.at?_append` — what adding bytes to a file does.
-/

import EntryTemplates.Proofs.Files.Directories
import EntryTemplates.Proofs.Files.Growth

set_option relaxedAutoImplicit false
set_option autoImplicit false

namespace EntryTemplates.Files.Tree

/-! ### Locations and walks -/

/-- The location that parts lead to, without a look at the tree. -/
def goTo (start : Location) (parts : List String) : Location :=
  parts.foldl (fun location part =>
    if part = ".." then location.dropLast else location ++ [part]) start

theorem absolute_eq (t : Tree) (p : Path) : t.absolute p = goTo (t.start p) p.parts := rfl

theorem absolute_congr {t t' : Tree} (h : t'.here = t.here) (p : Path) :
    t'.absolute p = t.absolute p := by
  rw [absolute_eq, absolute_eq, start, start, h]

/-- A location has no part that leads up. -/
theorem notUp_goTo {start : Location} {parts : List String} (h : ".." ∉ start) :
    ".." ∉ goTo start parts := by
  induction parts generalizing start with
  | nil => exact h
  | cons part parts ih =>
      refine ih ?_
      dsimp only
      split
      · exact fun hmem => h (List.dropLast_subset start hmem)
      · rename_i hpart
        rw [List.mem_append, List.mem_singleton]
        exact fun hmem => hmem.elim h fun heq => hpart heq.symm

theorem notUp_absolute {t : Tree} (h : ".." ∉ t.here) (p : Path) : ".." ∉ t.absolute p := by
  rw [absolute_eq]
  refine notUp_goTo ?_
  rw [start]
  split
  · exact List.not_mem_nil
  · exact h

/-- A walk that succeeds ends at the location that its parts lead to. -/
theorem Walks.goTo_eq {t : Tree} {start : Location} {parts : List String} {place : Place}
    (h : t.Walks start parts place) : place.kind.1 = goTo start parts := by
  induction h with
  | stop => rfl
  | up hopen h ih => exact ih
  | down hopen hup hshort hat h ih =>
      rw [ih, goTo, goTo, List.foldl_cons, if_neg hup]
  | file hopen hup hshort hat => simp [Place.kind, goTo, hup]
  | free hopen hup hshort hat => simp [Place.kind, goTo, hup]

/-- **A path leads to its location**, if it leads anywhere. -/
theorem location_of_locate {t : Tree} {p : Path} {place : Place} (h : t.locate p = .ok place) :
    place.kind.1 = t.absolute p := (locate_eq_ok.1 h).2.goTo_eq

/-! ### Parents -/

/-- What leads to a file leads to its directory without the last part. -/
theorem Walks.parent {t : Tree} {start location : Location} {parts : List String}
    {bytes : ByteArray} (h : t.Walks start parts (.taken location (.file bytes))) :
    t.Walks start parts.dropLast (.taken location.dropLast .directory) := by
  generalize hplace : Place.taken location (.file bytes) = place at h
  induction h with
  | stop => simp at hplace
  | @up start parts place hopen h ih =>
      cases parts with
      | nil => subst hplace; cases h
      | cons part parts => exact .up hopen (ih hplace)
  | @down start part parts place hopen hup hshort hat h ih =>
      cases parts with
      | nil => subst hplace; cases h
      | cons next parts => exact .down hopen hup hshort hat (ih hplace)
  | file hopen hup hshort hat =>
      obtain ⟨rfl, -⟩ := Place.taken.inj hplace
      rw [List.dropLast_concat]
      exact .stop
  | free hopen hup hshort hat => simp at hplace

theorem Walkable.parent {t : Tree} {p : Path} (h : t.Walkable p) : t.Walkable p.parent := by
  obtain ⟨hnull, hlength, hopen⟩ := h
  refine ⟨?_, ?_, hopen⟩
  · rw [hasNull, List.any_eq_false] at hnull ⊢
    exact fun part hpart => hnull part (List.dropLast_subset p.parts hpart)
  · rcases List.eq_nil_or_concat' p.parts with hnil | ⟨parts, last, hparts⟩
    · have hparent : p.parent = p := by
        rw [Path.parent, hnil, List.dropLast_nil, ← hnil]
      rwa [hparent]
    · cases parts with
      | nil =>
          -- only the root is left, or a dot instead of it
          have hparent : p.parent = ⟨p.root, []⟩ := by simp [Path.parent, hparts]
          rw [Path.text, if_neg (by simp [hparts]), String.utf8ByteSize_append] at hlength
          rw [hparent, Path.text]
          split
          · decide
          · simp only [String.utf8ByteSize_append]
            have hempty : ("/".intercalate []).utf8ByteSize = 0 := rfl
            omega
      | cons part parts =>
          have hparent : p.parent = ⟨p.root, part :: parts⟩ := by
            rw [Path.parent, hparts, List.dropLast_concat]
          rw [Path.text, if_neg (by simp [hparts]), hparts,
            String.intercalate_append_of_ne_nil (by simp) (by simp)] at hlength
          rw [hparent, Path.text, if_neg (by simp)]
          simp only [String.utf8ByteSize_append] at hlength ⊢
          omega

theorem isAt_parent {t : Tree} {p : Path} {location : Location} {bytes : ByteArray}
    (h : t.locate p = .ok (.taken location (.file bytes))) :
    t.IsAt p.parent location.dropLast := by
  obtain ⟨hp, hwalk⟩ := locate_eq_ok.1 h
  exact locate_eq_ok.2 ⟨hp.parent, hwalk.parent⟩

/-! ### Files that stay -/

/-- All files of a tree stand in another one, with the same bytes. -/
structure KeepsFiles (t t' : Tree) : Prop where
  here : t'.here = t.here
  file : ∀ location bytes, t.at? location = some (.file bytes) →
    t'.at? location = some (.file bytes)

theorem KeepsFiles.refl (t : Tree) : KeepsFiles t t := ⟨rfl, fun _ _ h => h⟩

theorem KeepsFiles.trans {t t' t'' : Tree} (h : KeepsFiles t t') (h' : KeepsFiles t' t'') :
    KeepsFiles t t'' :=
  ⟨h'.here.trans h.here, fun location bytes hat => h'.file location bytes (h.file location bytes hat)⟩

theorem KeepsFiles.makeDirectories (t : Tree) (p : Path) : KeepsFiles t (t.makeDirectories p).1 :=
  have hgrown := grown_makeDirectories t p
  ⟨hgrown.here, fun _ bytes => (hgrown.file_iff List.not_mem_nil bytes).2⟩

/-- The top is no file. -/
theorem ne_nil_of_at?_ne {t : Tree} {location : Location}
    (h : t.at? location ≠ some .directory) : location ≠ [] := by
  rintro rfl
  exact h (by rw [at?, if_pos rfl])

/-- **Opening a file** keeps all files, and an empty one stands where none stood. -/
theorem ensureFile_eq_ok {t t' : Tree} {root : String} {location : Location} (hroot : root ≠ "")
    (hup : ".." ∉ location) (h : t.ensureFile ⟨root, location⟩ = .ok t') :
    KeepsFiles t t' ∧ ∃ bytes, t'.at? location = some (.file bytes) := by
  have hplace {place : Place} (hlocate : t.locate ⟨root, location⟩ = .ok place) :
      place.kind.1 = location := by
    have hstart : t.start ⟨root, location⟩ = [] := by simp [start, Path.isAbsolute, hroot]
    rw [(locate_eq_ok.1 hlocate).2.location_eq hup, hstart, List.nil_append]
  rw [ensureFile] at h
  split at h
  · rename_i found bytes hlocate
    split at h
    · cases h
    obtain rfl := Except.ok.inj h
    obtain rfl : found = location := hplace hlocate
    exact ⟨.refl _, bytes, (locate_eq_ok.1 hlocate).2.at?_of_file⟩
  · exact absurd h (by simp)
  · rename_i found hlocate
    obtain ⟨-, rfl⟩ := add_eq_ok.1 h
    obtain rfl : found = location := hplace hlocate
    have hfree := (locate_eq_ok.1 hlocate).2.at?_of_free
    have hne : found ≠ [] := ne_nil_of_at?_ne (t := t) (by simp [hfree])
    refine ⟨⟨rfl, fun other _ hat => ?_⟩, _, at?_put_self t hne _⟩
    rw [at?_put_of_ne t ?_, hat]
    rintro rfl
    exact absurd (hfree.symm.trans hat) (by simp)
  · exact absurd h (by simp)

/-- **Adding bytes to a file** is a change of this file only. -/
theorem at?_append {t : Tree} (location : Location) {other : Location} {old : ByteArray}
    (hat : t.at? other = some (.file old)) (added : ByteArray) :
    (t.append location added).at? other =
      some (.file (if other = location then old ++ added else old)) := by
  rw [append]
  split
  · rename_i held hheld
    split
    · rename_i heq
      subst heq
      obtain rfl : held = old := by simpa using hheld.symm.trans hat
      exact at?_put_self t (ne_nil_of_at?_ne (t := t) (by simp [hat])) _
    · rename_i hne
      rw [at?_put_of_ne t hne, hat]
  · rename_i hnone
    split
    · rename_i heq
      exact absurd (heq ▸ hat) (hnone old)
    · exact hat

end EntryTemplates.Files.Tree
