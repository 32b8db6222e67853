/-
**What making directories leaves alone.**

A directory is made together with those above it, one after the other, and what was made before a
failure remains.  Either way nothing that was there is changed, and nothing but directories is
added.

Main definitions:

* `EntryTemplates.Files.Tree.GrownBut` — outside some locations nothing was changed, and nothing but
  directories was added.

Main results:

* `EntryTemplates.Files.Tree.GrownBut.file_iff` — the files are the same, with the same bytes;
* `EntryTemplates.Files.Tree.grown_makeDirectories` — **making directories changes no file**, whether
  it succeeds or not.
-/

import EntryTemplates.Proofs.Files.Walk

set_option relaxedAutoImplicit false
set_option autoImplicit false

namespace EntryTemplates.Files.Tree

/-- Outside the locations `changed` every entry is the same, but that directories stand where
nothing stood. -/
structure GrownBut (changed : List Location) (t t' : Tree) : Prop where
  here : t'.here = t.here
  denied : t'.denied = t.denied
  kept : ∀ location ∉ changed, t'.at? location = t.at? location ∨
    t.at? location = none ∧ t'.at? location = some .directory

namespace GrownBut

variable {changed : List Location} {t t' t'' : Tree}

theorem refl (changed : List Location) (t : Tree) : GrownBut changed t t :=
  ⟨rfl, rfl, fun _ _ => Or.inl rfl⟩

theorem trans (h : GrownBut changed t t') (h' : GrownBut changed t' t'') :
    GrownBut changed t t'' := by
  refine ⟨h'.here.trans h.here, h'.denied.trans h.denied, fun location hlocation => ?_⟩
  rcases h.kept location hlocation with hsame | ⟨hnone, hmade⟩
  · rw [← hsame]
    exact h'.kept location hlocation
  · refine Or.inr ⟨hnone, ?_⟩
    rcases h'.kept location hlocation with hsame' | ⟨hnone', -⟩
    · rw [hsame', hmade]
    · exact absurd (hmade.symm.trans hnone') (by simp)

theorem mono {changed' : List Location} (h : GrownBut changed t t') (hsub : changed ⊆ changed') :
    GrownBut changed' t t' :=
  ⟨h.here, h.denied, fun location hlocation => h.kept location fun hmem => hlocation (hsub hmem)⟩

/-- The files elsewhere are the same, with the same bytes. -/
theorem file_iff (h : GrownBut changed t t') {location : Location} (hlocation : location ∉ changed)
    (bytes : ByteArray) :
    t'.at? location = some (.file bytes) ↔ t.at? location = some (.file bytes) := by
  rcases h.kept location hlocation with hsame | ⟨hnone, hmade⟩
  · rw [hsame]
  · simp [hnone, hmade]

/-- What was put at one location is a change there only. -/
theorem put (t : Tree) (location : Location) (e : Entry) :
    GrownBut [location] t (t.put location e) :=
  ⟨rfl, rfl, fun _ hother => Or.inl (at?_put_of_ne t (by simpa using hother) e)⟩

end GrownBut

theorem GrownBut.write {t t' : Tree} {p : Path} {bytes : ByteArray} (h : t.write p bytes = .ok t') :
    ∃ location, t'.locate p = .ok (.taken location (.file bytes)) ∧ GrownBut [location] t t' := by
  obtain ⟨location, hp, hwritable, rfl⟩ := write_eq_ok.1 h
  exact ⟨location, hwritable.locate_put hp bytes, .put t location _⟩

/-! ### Making directories -/

theorem grown_makeDirectory {t t' : Tree} {p : Path} (h : t.makeDirectory p = .ok t') :
    GrownBut [] t t' := by
  rw [makeDirectory] at h
  split at h
  · exact absurd h (by simp)
  · rename_i location hfree
    obtain ⟨-, rfl⟩ := add_eq_ok.1 h
    have hnone : t.at? location = none := (locate_eq_ok.1 hfree).2.at?_of_free
    have hne : location ≠ [] := by
      rintro rfl
      simp [at?] at hnone
    refine ⟨rfl, rfl, fun other _ => ?_⟩
    by_cases heq : other = location
    · subst heq
      exact Or.inr ⟨hnone, at?_put_self t hne _⟩
    · exact Or.inl (at?_put_of_ne t heq _)
  · exact absurd h (by simp)

theorem grown_ensureDirectory {t t' : Tree} {p : Path} (h : t.ensureDirectory p = .ok t') :
    GrownBut [] t t' := by
  rw [ensureDirectory] at h
  split at h
  · rename_i made hmade
    obtain rfl := Except.ok.inj h
    exact grown_makeDirectory hmade
  · exact absurd h (by simp)
  · exact absurd h (by simp)
  · split at h
    · obtain rfl := Except.ok.inj h
      exact .refl _ _
    · exact absurd h (by simp)
    · exact absurd h (by simp)

theorem grown_makeDirectoriesUpTo (root : String) (fuel : Nat) (parts : List String) (t : Tree) :
    GrownBut [] t (makeDirectoriesUpTo root fuel parts t).1 := by
  -- each step adds one directory to what the steps above it have made
  induction fuel generalizing parts t with
  | zero =>
      rw [makeDirectoriesUpTo]
      split
      · rename_i made hmade
        exact grown_ensureDirectory hmade
      · exact .refl _ _
      · exact .refl _ _
  | succ fuel ih =>
      rw [makeDirectoriesUpTo]
      split
      · rename_i made hmade
        exact grown_ensureDirectory hmade
      · have habove := ih parts.dropLast t
        dsimp only
        split
        · rename_i above hresult
          rw [hresult] at habove
          split
          · rename_i made hmade
            exact habove.trans (grown_ensureDirectory hmade)
          · exact habove
        · rename_i above e hresult
          rw [hresult] at habove
          exact habove
      · exact .refl _ _

/-- **Making directories changes no file**, whether it succeeds or not. -/
theorem grown_makeDirectories (t : Tree) (p : Path) : GrownBut [] t (t.makeDirectories p).1 :=
  grown_makeDirectoriesUpTo p.root p.parts.length p.parts t

end EntryTemplates.Files.Tree
