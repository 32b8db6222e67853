/-
**The objects that nodes begin with.**

When a node is met, a scalar gets its value, and a collection an object without parts, which waits to
be filled.  Where a document is a tree every node is met once.

Main definitions:

* `EntryTemplates.Document.Builder.objectAt` — the object under a number, if it is there;
* `EntryTemplates.Document.Builder.Fresh` — nodes of trees that have no object yet;
* `EntryTemplates.Document.Builder.Begun` — what is left when they have begun.

Main results:

* `EntryTemplates.Document.Builder.textOf_eq` — the text of a node;
* `EntryTemplates.Document.Builder.build_yields` — **a node begins as it does in the tree**.
-/

import EntryTemplates.Proofs.Document.Merging

set_option relaxedAutoImplicit false
set_option autoImplicit false

namespace EntryTemplates.Document

namespace Builder

/-! ### Texts -/

/-- What is there, or a failure. -/
def orNoValue {α : Type} : Option α → Except Failure α
  | some a => .ok a
  | none => noValue

theorem find?_entryNumbers {b : Builder} {entries : List (Spot × Spot)}
    (h : ∀ s ∈ spotsOf entries, Holds b.node s) :
    (entryNumbers entries).find? (fun entry => (b.node entry.1).tag = .value) =
      (entries.find? fun entry => entry.1.tree.tag = .value).map
        fun entry => (entry.1.number, entry.2.number) := by
  induction entries with
  | nil => rfl
  | cons entry entries ih =>
      have htag := (h entry.1 (by simp)).tag_eq
      rw [entryNumbers_cons, List.find?_cons, List.find?_cons, htag,
        ih fun s hs => h s (by simp [hs])]
      by_cases hvalue : entry.1.tree.tag = .value
      · simp [hvalue]
      · simp [hvalue]

theorem textOfEntries?_eq (entries : List (Spot × Spot)) :
    Tree.textOfEntries? (treesOf entries) =
      (entries.find? fun entry => entry.1.tree.tag = .value).bind fun entry =>
        entry.2.tree.text? := by
  induction entries with
  | nil => rfl
  | cons entry entries ih =>
      rw [treesOf_cons, Tree.textOfEntries?, List.find?_cons]
      by_cases htag : entry.1.tree.tag = .value
      · simp [htag]
      · simp [htag, ih]

/-- **The text of a node** is its text in the tree. -/
theorem textOf_eq {b : Builder} {fuel : Nat} {s : Spot} (h : Holds b.node s)
    (hfuel : s.tree.size ≤ fuel) : b.textOf fuel s.number = orNoValue s.tree.text? := by
  induction fuel generalizing s with
  | zero => exact absurd hfuel (Nat.not_le_of_lt s.tree.size_pos)
  | succ fuel ih =>
      cases h with
      | scalar hnode => rw [textOf, hnode]; rfl
      | sequence hnode hitems => rw [textOf, hnode]; rfl
      | @mapping n tag entries hnode hentries =>
          have htrees := textOfEntries?_eq (entriesFrom (n + 1) entries)
          rw [treesOf_entriesFrom] at htrees
          rw [textOf, hnode, Tree.text?, htrees]
          simp only [find?_entryNumbers hentries]
          cases hfound : (entriesFrom (n + 1) entries).find? fun entry =>
              entry.1.tree.tag = .value with
          | none => rfl
          | some entry =>
              have hmem := mem_spotsOf.2 ⟨entry, List.mem_of_find?_eq_some hfound, .inr rfl⟩
              have hbounds := bounds_of_mem_entriesFrom hmem
              exact ih (hentries _ hmem) (by simp only [Tree.size] at hfuel; omega)

theorem scalarValue_eq {b : Builder} {s : Spot} (h : Holds b.node s)
    (hsize : s.tree.size ≤ b.nodes.size) :
    b.scalarValue s.number =
      (orNoValue s.tree.text?).bind (valueOf s.tree.tag s.tree.isScalar) := by
  rw [scalarValue, textOf_eq h (Nat.le_succ_of_le hsize), h.tag_eq]
  cases s.tree.text? with
  | none => rfl
  | some text =>
      cases s.tree.tag
      -- whether the node is a scalar counts here, and nowhere else
      case timestamp =>
        cases h with
        | scalar hnode => simp only [hnode]; rfl
        | sequence hnode _ => simp only [hnode]; rfl
        | mapping hnode _ => simp only [hnode]; rfl
      all_goals rfl

/-! ### Beginning -/

/-- The object under a number, if it is there. -/
def objectAt (b : Builder) (m : Nat) : Option Object := b.objects[m]?.getD none

theorem objectAt_put {b : Builder} {number : Nat} (h : number < b.objects.size) (o : Object)
    (m : Nat) : (b.put number o).objectAt m = if number = m then some o else b.objectAt m := by
  rw [objectAt, put, Array.getElem?_setIfInBounds]
  by_cases heq : number = m
  · subst heq
    rw [if_pos rfl, if_pos rfl, if_pos h]
    rfl
  · rw [if_neg heq, if_neg heq, objectAt]

/-- None of the nodes of some trees has an object yet. -/
structure Fresh (b : Builder) (spots : List Spot) : Prop where
  placed : Placed b.node spots
  bound : ∀ m, Covered spots m → m < b.nodes.size
  free : ∀ m, Covered spots m → b.objectAt m = none
  sizes : b.objects.size = b.nodes.size

namespace Fresh

variable {b : Builder} {s : Spot} {spots spots' : List Spot}

/-- Trees within others are fresh if these are. -/
theorem within (h : b.Fresh spots) (hplaced : Placed b.node spots')
    (hsub : ∀ m, Covered spots' m → Covered spots m) : b.Fresh spots' :=
  ⟨hplaced, fun m hm => h.bound m (hsub m hm), fun m hm => h.free m (hsub m hm), h.sizes⟩

theorem split (h : b.Fresh (spots ++ spots')) : b.Fresh spots ∧ b.Fresh spots' ∧
    ∀ m, Covered spots m → ¬ Covered spots' m := by
  obtain ⟨hplaced, hplaced', hapart⟩ := h.placed.split
  exact ⟨h.within hplaced fun m hm => covered_append.2 (.inl hm),
    h.within hplaced' fun m hm => covered_append.2 (.inr hm), hapart⟩

theorem fits (h : b.Fresh spots) (hs : s ∈ spots) : s.number + s.tree.size ≤ b.nodes.size := by
  have hpositive := s.tree.size_pos
  have hlast : s.Covers (s.number + s.tree.size - 1) := ⟨by omega, by omega⟩
  have hbound := h.bound _ ⟨s, hs, hlast⟩
  omega

end Fresh

/-- Some nodes have begun, and nothing else has changed. -/
structure Begun (b : Builder) (spots : List Spot) (b' : Builder) : Prop where
  begins : ∀ s ∈ spots, s.tree.begun?.isSome
  there : ∀ s ∈ spots, b'.objectAt s.number = s.tree.begun?
  others : ∀ m, (∀ s ∈ spots, s.number ≠ m) → b'.objectAt m = b.objectAt m
  nodes : b'.nodes = b.nodes
  queue : b'.queue =
    b.queue ++ (spots.filter fun s => s.tree.tag.isCollection).map Spot.number
  size : b'.objects.size = b.objects.size

namespace Begun

variable {b b₁ b₂ : Builder} {spots spots' : List Spot}

theorem nil (b : Builder) : Begun b [] b :=
  ⟨by simp, by simp, fun _ _ => rfl, rfl, by simp, rfl⟩

theorem node_eq (h : Begun b spots b₁) : b₁.node = b.node := by
  funext m
  rw [node, node, h.nodes]

theorem objectAt_eq (h : Begun b spots b₁) {m : Nat} (hm : ¬ Covered spots m) :
    b₁.objectAt m = b.objectAt m :=
  h.others m fun s hs heq => hm ⟨s, hs, heq ▸ s.covers_number⟩

/-- What is fresh beside the nodes that have begun remains so. -/
theorem fresh (h : Begun b spots b₁) (hfresh : b.Fresh spots')
    (hapart : ∀ m, Covered spots m → ¬ Covered spots' m) : b₁.Fresh spots' := by
  refine ⟨?_, ?_, fun m hm => ?_, ?_⟩
  · rw [h.node_eq]
    exact hfresh.placed
  · rw [h.nodes]
    exact hfresh.bound
  · rw [h.objectAt_eq fun hm' => hapart m hm' hm]
    exact hfresh.free m hm
  · rw [h.size, h.nodes]
    exact hfresh.sizes

theorem append (h : Begun b spots b₁) (h' : Begun b₁ spots' b₂)
    (hapart : ∀ m, Covered spots m → ¬ Covered spots' m) : Begun b (spots ++ spots') b₂ := by
  refine ⟨?_, ?_, fun m hm => ?_, h'.nodes.trans h.nodes, ?_, h'.size.trans h.size⟩
  · exact List.forall_mem_append.2 ⟨h.begins, h'.begins⟩
  · refine List.forall_mem_append.2 ⟨fun s hs => ?_, h'.there⟩
    rw [h'.objectAt_eq (hapart _ ⟨s, hs, s.covers_number⟩), h.there s hs]
  · obtain ⟨hm, hm'⟩ := List.forall_mem_append.1 hm
    rw [h'.others m hm', h.others m hm]
  · rw [h'.queue, h.queue, List.filter_append, List.map_append, List.append_assoc]

end Begun

/-- The object of one node is put in its place. -/
theorem begun_put {b : Builder} {s : Spot} {o : Object} (hfresh : b.Fresh [s])
    (hbegun : s.tree.begun? = some o) :
    Begun b [s] { b.put s.number o with
      queue := if s.tree.tag.isCollection then b.queue ++ [s.number] else b.queue } := by
  have hsize : s.number < b.objects.size := by
    rw [hfresh.sizes]
    exact hfresh.bound _ ⟨s, List.mem_cons_self, s.covers_number⟩
  have hput (m : Nat) := objectAt_put hsize o m
  refine ⟨by simp [hbegun], ?_, fun m hm => ?_, rfl, ?_, Array.size_setIfInBounds⟩
  · intro s' hs'
    obtain rfl := List.mem_singleton.1 hs'
    rw [hbegun]
    exact (hput _).trans (if_pos rfl)
  · exact (hput m).trans (if_neg (hm s List.mem_cons_self))
  · cases htag : s.tree.tag.isCollection <;> simp [htag]

theorem map_scalarValue_yields {b : Builder} {s : Spot} (hfresh : b.Fresh [s])
    (hcollection : s.tree.tag.isCollection = false)
    (hbegun : s.tree.begun? = s.tree.text?.bind fun text =>
      (valueOf s.tree.tag s.tree.isScalar text).toOption.map .scalar) :
    Yields ((b.scalarValue s.number).map fun d => b.put s.number (.scalar d))
      s.tree.begun?.isSome (Begun b [s]) := by
  have hfits := hfresh.fits List.mem_cons_self
  have hput {o : Object} (h : s.tree.begun? = some o) : Begun b [s] (b.put s.number o) := by
    have hbegun := begun_put hfresh h
    rw [hcollection] at hbegun
    exact hbegun
  rw [scalarValue_eq hfresh.placed.head (by omega)]
  cases htext : s.tree.text? with
  | none =>
      rw [htext] at hbegun
      exact Yields.noValue (by simp [hbegun])
  | some text =>
      rw [htext, Option.bind_some] at hbegun
      cases hvalue : valueOf s.tree.tag s.tree.isScalar text with
      | error e =>
          rw [hvalue] at hbegun
          simp only [orNoValue, Except.bind, hvalue, Except.map]
          exact fun h => by simp [hbegun, Except.toOption] at h
      | ok d =>
          rw [hvalue] at hbegun
          simp only [orNoValue, Except.bind, hvalue, Except.map]
          exact .ok (by rw [hbegun]; rfl) (hput hbegun)

/-- **A node begins as it does in the tree.** -/
theorem build_yields {b : Builder} {s : Spot} (hfresh : b.Fresh [s]) :
    Yields (b.build s.number) s.tree.begun?.isSome (Begun b [s]) := by
  have hfree : b.objects[s.number]?.getD none = none :=
    hfresh.free _ ⟨s, List.mem_cons_self, s.covers_number⟩
  have hlater {o : Object} (htag : s.tree.tag.isCollection = true) (hbegun : s.tree.begun? = some o) :
      Yields (.ok { b.put s.number o with queue := b.queue ++ [s.number] }) s.tree.begun?.isSome
        (Begun b [s]) := by
    have hput := begun_put hfresh hbegun
    rw [htag] at hput
    exact .ok (by rw [hbegun]; rfl) hput
  have hscalar := map_scalarValue_yields hfresh
  rw [build, hfree]
  simp only [hfresh.placed.head.tag_eq]
  cases htag : s.tree.tag with
  | seq => exact hlater (by rw [htag]; rfl) (by rw [Tree.begun?, htag])
  | orderedMap => exact hlater (by rw [htag]; rfl) (by rw [Tree.begun?, htag])
  | pairs => exact hlater (by rw [htag]; rfl) (by rw [Tree.begun?, htag])
  | map => exact hlater (by rw [htag]; rfl) (by rw [Tree.begun?, htag])
  | set => exact hlater (by rw [htag]; rfl) (by rw [Tree.begun?, htag])
  | merge => exact Yields.noValue (by simp [Tree.begun?, htag])
  | value => exact Yields.noValue (by simp [Tree.begun?, htag])
  | other => exact Yields.noValue (by simp [Tree.begun?, htag])
  | null | bool | int | float | binary | timestamp | str =>
      exact hscalar (by rw [htag]; rfl) (by rw [Tree.begun?, htag])

/-- **Several nodes begin as they do in their trees.** -/
theorem buildAll_yields {b : Builder} {spots : List Spot} (hfresh : b.Fresh spots) :
    Yields (b.buildAll (spots.map Spot.number)) (∀ s ∈ spots, s.tree.begun?.isSome)
      (Begun b spots) := by
  induction spots generalizing b with
  | nil => exact .ok (by simp) (.nil b)
  | cons s spots ih =>
      obtain ⟨hone, hrest, hapart⟩ : b.Fresh [s] ∧ b.Fresh spots ∧ _ := hfresh.split
      refine (build_yields hone).bind List.forall_mem_cons fun b₁ _ h => ?_
      exact (ih (h.fresh hrest hapart)).imp Iff.rfl fun b₂ _ h' => h.append h' hapart

end Builder

end EntryTemplates.Document
