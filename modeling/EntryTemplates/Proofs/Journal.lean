/-
**Which sources are heard.**

An entry is handed from its source to the nearest known source above it, and from there on upwards.
Of several dots in a row only every other one is looked at, so that the climb from a name may miss
the library's own source right above it.  It never does if the part after the library's own name
does not itself begin with a dot.

Main definitions:

* `EntryTemplates.Journal.IsHeard` — the names of parts whose entries reach the library's own source
  for sure.

Main results:

* `EntryTemplates.Journal.mem_knownAbove` — the climb from a name passes a known one;
* `EntryTemplates.Journal.reaches_sourceOf` — **a part whose name does not begin with a dot is
  heard**.
-/

import EntryTemplates.Journal

set_option relaxedAutoImplicit false
set_option autoImplicit false

namespace EntryTemplates.Journal

/-! ### Climbing from a name -/

section Climb

variable {known : List Char → Bool} {rest : List Char}

theorem knownAbove_dots :
    knownAbove known ('.' :: '.' :: rest) =
      if known ('.' :: rest) then ('.' :: rest) :: knownAbove known ('.' :: rest)
      else knownAbove known rest := rfl

theorem knownAbove_dot (h : rest.head? ≠ some '.') :
    knownAbove known ('.' :: rest) =
      if known rest then rest :: knownAbove known rest else knownAbove known rest := by
  rw [knownAbove]
  rintro rest' rfl
  exact h rfl

theorem knownAbove_other {c : Char} (h : c ≠ '.') :
    knownAbove known (c :: rest) = knownAbove known rest := by
  rw [knownAbove]
  · rintro rest' rfl
    exact absurd rfl h
  · rintro rfl
    exact absurd rfl h

/-- **The climb from a name passes a known one above it**, if what stands between them and the dot
does not begin with a dot.  Names are written in reverse. -/
theorem mem_knownAbove {top : List Char} (htop : known top = true) (hhead : top.head? ≠ some '.')
    {below : List Char} (hbelow : ¬ ['.'] <:+ below) :
    top ∈ knownAbove known (below ++ '.' :: top) := by
  -- whatever the climb passes on its way is such a name itself, and shorter
  induction hlength : below.length using Nat.strongRecOn generalizing below with
  | ind n ih =>
      subst hlength
      cases below with
      | nil =>
          rw [List.nil_append, knownAbove_dot hhead, if_pos htop]
          exact List.mem_cons_self
      | cons c rest =>
          have hrest : ¬ ['.'] <:+ rest := fun h => hbelow (h.trans (List.suffix_cons c rest))
          have hclimb := ih rest.length (by simp) hrest rfl
          rw [List.cons_append]
          by_cases hc : c = '.'
          · subst hc
            cases rest with
            | nil => exact absurd (List.suffix_refl _) hbelow
            | cons d rest' =>
                by_cases hd : d = '.'
                · subst hd
                  rw [List.cons_append, knownAbove_dots]
                  split
                  · exact List.mem_cons_of_mem _ hclimb
                  · exact ih rest'.length (by rw [List.length_cons, List.length_cons]; omega)
                      (fun h => hrest (h.trans (List.suffix_cons '.' rest'))) rfl
                · rw [knownAbove_dot (by simpa using hd)]
                  split
                  · exact List.mem_cons_of_mem _ hclimb
                  · exact hclimb
          · rw [knownAbove_other hc]
            exact hclimb

end Climb

/-! ### Names that are heard -/

/-- The names of parts that do not begin with a dot; without a name the library itself is meant. -/
def IsHeard : Option String → Prop
  | none => True
  | some name => name.toList.head? ≠ some '.'

instance : DecidablePred IsHeard
  | none => isTrue trivial
  | some name => inferInstanceAs (Decidable (name.toList.head? ≠ some '.'))

theorem sourceOf_of_ne {name : String} (h : name ≠ "") :
    sourceOf (some name) = topSource ++ "." ++ name := by
  rw [sourceOf]
  rintro rfl
  exact h rfl

/-- **A part whose name does not begin with a dot is heard**, whatever other sources are known. -/
theorem reaches_sourceOf (j : Journal) {name : Option String} (h : IsHeard name) :
    j.reaches (sourceOf name) = true := by
  have htop (source : String) (hsource : source = topSource) : j.reaches source = true := by
    simp [reaches, hsource]
  cases name with
  | none => exact htop _ rfl
  | some name =>
      by_cases hempty : name = ""
      · subst hempty
        exact htop _ rfl
      · have hbelow : ¬ ['.'] <:+ name.toList.reverse := by
          rw [← List.reverse_prefix, List.reverse_reverse]
          rintro ⟨rest, hrest⟩
          exact h (by rw [← hrest]; rfl)
        have htop : j.isKnown topSource.toList.reverse = true := by simp [isKnown]
        have hmem := mem_knownAbove htop (by decide) hbelow
        rw [sourceOf_of_ne hempty, reaches, above, Bool.or_eq_true, List.contains_iff_mem]
        refine Or.inr (List.mem_map.2 ⟨topSource.toList.reverse, ?_, by simp⟩)
        simpa using hmem

end EntryTemplates.Journal
