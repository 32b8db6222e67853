/-
**Loading a document that is a tree.**

Collections wait in a queue until they are filled, and their parts that are collections wait behind
the others.  Since no node has two places, each of them is filled exactly once, and in the end every
node has the value that it has in the tree.

Main definitions:

* `EntryTemplates.Document.Built` — the objects of a tree are there;
* `EntryTemplates.Document.Builder.Pending` — collections that wait to be filled.

Main results:

* `EntryTemplates.Document.Builder.run_yields` — **the queue is worked off**, unless a node has no
  value;
* `EntryTemplates.Document.Built.value_eq` — the value of a node;
* `EntryTemplates.Document.ofGraph_yields` — a document is loaded exactly if its tree has a value.
-/

import EntryTemplates.Proofs.Document.Filling

set_option relaxedAutoImplicit false
set_option autoImplicit false

namespace EntryTemplates.Document

/-! ### What has a value -/

namespace Tree

variable {t : Tree} {parts : Parts}

theorem begun?_of_collection (h : t.tag.isCollection = true) : t.begun?.isSome := by
  rw [begun?]
  cases htag : t.tag with
  | seq | orderedMap | pairs | map | set => rfl
  | merge | value | other | null | bool | int | float | binary | timestamp | str =>
      rw [htag] at h
      cases h

/-- Other nodes than collections begin with their value. -/
theorem begun?_of_not_collection (h : t.tag.isCollection = false) :
    t.begun? = t.datum?.map .scalar := by
  rw [datum?_scalar h, key?]
  have hscalar : ∀ o, t.begun? = some o → ∃ d, o = .scalar d := by
    intro o ho
    rw [begun?] at ho
    cases htag : t.tag with
    | seq | orderedMap | pairs | map | set =>
        rw [htag] at h
        cases h
    | merge | value | other =>
        rw [htag] at ho
        cases ho
    | null | bool | int | float | binary | timestamp | str =>
        rw [htag] at ho
        obtain ⟨text, -, ho⟩ := Option.bind_eq_some_iff.1 ho
        obtain ⟨d, -, rfl⟩ := Option.map_eq_some_iff.1 ho
        exact ⟨d, rfl⟩
  cases hbegun : t.begun? with
  | none => rfl
  | some o =>
      obtain ⟨d, rfl⟩ := hscalar o hbegun
      rfl

theorem isSome_begun? (h : t.datum?.isSome) : t.begun?.isSome := by
  cases hcollection : t.tag.isCollection with
  | true => exact begun?_of_collection hcollection
  | false => rw [begun?_of_not_collection hcollection, Option.isSome_map, h]

/-- A collection has a value exactly if all its parts have one. -/
theorem isSome_datum? (h : t.tag.isCollection = true) :
    t.datum?.isSome ↔ ∃ parts, t.parts? = some parts ∧ ∀ part ∈ parts.trees, part.datum?.isSome := by
  rw [datum?_collection h]
  cases t.parts? with
  | none => simp
  | some parts => simp [isSome_mapM]

end Tree

/-! ### The queue -/

/-- The objects of a tree are there. -/
inductive Built (objects : Array (Option Object)) : Spot → Prop where
  | scalar {s : Spot} {d : Datum} (hcollection : s.tree.tag.isCollection = false)
      (hdatum : s.tree.datum? = some d)
      (hobject : objects[s.number]?.getD none = some (.scalar d)) : Built objects s
  | whole {s : Spot} {parts : Parts} {spots : List Spot}
      (hcollection : s.tree.tag.isCollection = true) (hparts : s.tree.parts? = some parts)
      (htrees : spots.map Spot.tree = parts.trees)
      (hobject : objects[s.number]?.getD none = some (parts.kind.object (spots.map Spot.number)))
      (hwithin : ∀ m, Covered spots m → s.Covers m ∧ m ≠ s.number)
      (hbuilt : ∀ part ∈ spots, Built objects part) : Built objects s

/-- Other nodes than collections are built as soon as they have begun. -/
theorem Built.of_begun {objects : Array (Option Object)} {s : Spot}
    (hcollection : s.tree.tag.isCollection = false) (hbegins : s.tree.begun?.isSome)
    (hobject : objects[s.number]?.getD none = s.tree.begun?) : Built objects s := by
  rw [Tree.begun?_of_not_collection hcollection] at hbegins hobject
  rw [Option.isSome_map] at hbegins
  obtain ⟨d, hd⟩ := Option.isSome_iff_exists.1 hbegins
  exact .scalar hcollection hd (by rw [hobject, hd]; rfl)

namespace Builder

/-- Collections that wait to be filled, apart from each other. -/
structure Pending (b : Builder) (spots : List Spot) : Prop where
  queue : b.queue = spots.map Spot.number
  waiting : ∀ s ∈ spots, b.Waiting s
  apart : spots.Pairwise Spot.Apart

/-- The collections among some trees. -/
def collections (spots : List Spot) : List Spot := spots.filter fun s => s.tree.tag.isCollection

variable {b b₁ b' : Builder} {s : Spot} {rest spots : List Spot} {parts : Parts} {o : Object}

theorem covered_collections {m : Nat} (h : Covered (collections spots) m) : Covered spots m := by
  obtain ⟨s, hs, hm⟩ := h
  exact ⟨s, List.mem_of_mem_filter hs, hm⟩

/-- What is no collection stands apart from those that are. -/
theorem not_covered_collections (hapart : spots.Pairwise Spot.Apart) (hs : s ∈ spots)
    (hcollection : s.tree.tag.isCollection = false) :
    ¬ Covered (collections spots) s.number := by
  rintro ⟨other, hother, hm⟩
  obtain ⟨hother, htag⟩ := List.mem_filter.1 hother
  have hne : other ≠ s := fun heq => by
    rw [heq, hcollection] at htag
    cases htag
  exact hapart.forall hother hs hne _ hm s.covers_number

section Step

variable {queue : List Nat} {r : Spot}

theorem Waiting.objectAt_put (hs : b.Waiting s) (hgathered : Gathered { b with queue } s spots b₁)
    (m : Nat) :
    (b₁.put s.number o).objectAt m = if s.number = m then some o else b₁.objectAt m := by
  refine Builder.objectAt_put ?_ o m
  rw [hgathered.sizes, hgathered.size]
  exact hs.bound _ s.covers_number

theorem Gathered.sizes_put (hgathered : Gathered { b with queue } s spots b₁) :
    (b₁.put s.number o).objects.size = b₁.nodes.size := by
  rw [put, Array.size_setIfInBounds, hgathered.sizes]

/-- What waits apart from a collection still does when that one has been filled. -/
theorem Waiting.beside (hr : b.Waiting r) (hs : b.Waiting s)
    (hgathered : Gathered { b with queue } s spots b₁) (hapart : s.Apart r) :
    (b₁.put s.number o).Waiting r := by
  have hother {m : Nat} (hm : r.Covers m) : ¬ s.Covers m := fun hm' => hapart m hm' hm
  refine ⟨hr.holds.congr fun m hm => hgathered.node m (hother hm), hr.collection, fun m hm => ?_,
    fun m hm hne => ?_, hgathered.sizes_put⟩
  · exact Nat.lt_of_lt_of_eq (hr.bound m hm) hgathered.size.symm
  · rw [hs.objectAt_put hgathered, if_neg fun heq : s.number = m => hother hm (heq ▸ s.covers_number),
      hgathered.object m (hother hm)]
    exact hr.below m hm hne

/-- A part that is a collection waits when the collection that it is part of has been filled. -/
theorem Waiting.part (hs : b.Waiting s) (hgathered : Gathered { b with queue } s spots b₁)
    (hr : r ∈ spots) (hcollection : r.tree.tag.isCollection = true) :
    (b₁.put s.number o).Waiting r := by
  refine ⟨hgathered.placed.holds r hr, hcollection, fun m hm => ?_, fun m hm hne => ?_,
    hgathered.sizes_put⟩
  · exact Nat.lt_of_lt_of_eq (hs.bound m (hgathered.within m ⟨r, hr, hm⟩).1) hgathered.size.symm
  · rw [hs.objectAt_put hgathered, if_neg (hgathered.within m ⟨r, hr, hm⟩).2.symm]
    refine hgathered.below m ⟨r, hr, hm⟩ fun other hother heq => ?_
    have hapart := hgathered.placed.apart.forall hother hr fun h => hne (h ▸ heq.symm)
    exact hapart m (heq ▸ other.covers_number) hm

end Step

/-- Once a collection is filled, those of its parts that are collections wait behind the others. -/
theorem Pending.after (hp : b.Pending (s :: rest))
    (hgathered : Gathered { b with queue := rest.map Spot.number } s spots b₁) :
    (b₁.put s.number o).Pending (rest ++ collections spots) := by
  obtain ⟨hs, hrest⟩ := List.forall_mem_cons.1 hp.waiting
  obtain ⟨hapart, hrest'⟩ := List.pairwise_cons.1 hp.apart
  refine ⟨hgathered.queue.trans List.map_append.symm, fun r hr => ?_, ?_⟩
  · rcases List.mem_append.1 hr with hr | hr
    · exact (hrest r hr).beside hs hgathered (hapart r hr)
    · obtain ⟨hpart, hcollection⟩ := List.mem_filter.1 hr
      exact hs.part hgathered hpart hcollection
  · refine List.pairwise_append.2 ⟨hrest', hgathered.placed.apart.sublist List.filter_sublist, ?_⟩
    intro r hr part hpart m hm hm'
    exact hapart r hr m (hgathered.within m ⟨part, List.mem_of_mem_filter hpart, hm'⟩).1 hm

theorem sizeOfAll_collections (spots : List Spot) :
    Tree.sizeOfAll ((collections spots).map Spot.tree) ≤ Tree.sizeOfAll (spots.map Spot.tree) := by
  induction spots with
  | nil => exact Nat.le_refl _
  | cons s spots ih =>
      rw [collections, List.filter_cons]
      split
      · exact Nat.add_le_add_left ih _
      · exact Nat.le_trans ih (Nat.le_add_left _ _)

/-- A collection whose parts have begun has a value if those that are collections have one. -/
theorem isSome_datum?_iff (hcollection : s.tree.tag.isCollection = true)
    (hparts : s.tree.parts? = some parts) (htrees : spots.map Spot.tree = parts.trees)
    (hbegins : ∀ part ∈ spots, part.tree.begun?.isSome) :
    s.tree.datum?.isSome ↔ ∀ part ∈ collections spots, part.tree.datum?.isSome := by
  rw [Tree.isSome_datum? hcollection]
  constructor
  · rintro ⟨parts', hparts', hvalues⟩ part hpart
    obtain rfl := Option.some.inj (hparts.symm.trans hparts')
    rw [← htrees, List.forall_mem_map] at hvalues
    exact hvalues part (List.mem_of_mem_filter hpart)
  · intro hvalues
    refine ⟨parts, hparts, ?_⟩
    rw [← htrees, List.forall_mem_map]
    intro part hpart
    cases htag : part.tree.tag.isCollection with
    | true => exact hvalues part (List.mem_filter.2 ⟨hpart, htag⟩)
    | false =>
        have hbegins := hbegins part hpart
        rwa [Tree.begun?_of_not_collection htag, Option.isSome_map] at hbegins

/-- When the others are built behind it, the collection is built as well. -/
theorem Pending.built (hp : b.Pending (s :: rest))
    (hgathered : Gathered { b with queue := rest.map Spot.number } s spots b₁)
    (hparts : s.tree.parts? = some parts) (htrees : spots.map Spot.tree = parts.trees)
    (hbuilt : ∀ t ∈ rest ++ collections spots, Built b'.objects t)
    (hsame : ∀ m, ¬ Covered (rest ++ collections spots) m → b'.objectAt m =
      (b₁.put s.number (parts.kind.object (spots.map Spot.number))).objectAt m) :
    (∀ t ∈ s :: rest, Built b'.objects t) ∧
      ∀ m, ¬ Covered (s :: rest) m → b'.objectAt m = b.objectAt m := by
  obtain ⟨hs, -⟩ := List.forall_mem_cons.1 hp.waiting
  obtain ⟨hrest, hcollections⟩ := List.forall_mem_append.1 hbuilt
  have hapart : ∀ m, s.Covers m → ¬ Covered rest m := by
    rintro m hm ⟨r, hr, hm'⟩
    exact (List.pairwise_cons.1 hp.apart).1 r hr m hm hm'
  -- a number of the collection that none of its parts covers has kept its object since then
  have hkept {m : Nat} (hm : s.Covers m) (hm' : ¬ Covered (collections spots) m) :
      b'.objectAt m = if s.number = m then some (parts.kind.object (spots.map Spot.number))
        else b₁.objectAt m := by
    rw [hsame m fun h => (covered_append.1 h).elim (hapart m hm) hm', hs.objectAt_put hgathered]
  have hparts' : ∀ part ∈ spots, Built b'.objects part := by
    intro part hpart
    cases htag : part.tree.tag.isCollection with
    | true => exact hcollections part (List.mem_filter.2 ⟨hpart, htag⟩)
    | false =>
        have hwithin := hgathered.within _ ⟨part, hpart, part.covers_number⟩
        have hapart := not_covered_collections hgathered.placed.apart hpart htag
        refine .of_begun htag (hgathered.begins part hpart) ((hkept hwithin.1 hapart).trans ?_)
        rw [if_neg hwithin.2.symm, hgathered.there part hpart]
  refine ⟨List.forall_mem_cons.2 ⟨?_, hrest⟩, fun m hm => ?_⟩
  · refine .whole hs.collection hparts htrees ((hkept s.covers_number ?_).trans (if_pos rfl))
      hgathered.within hparts'
    exact fun h => (hgathered.within _ (covered_collections h)).2 rfl
  · rw [covered_cons, not_or] at hm
    rw [hsame m fun h => (covered_append.1 h).elim hm.2 fun h =>
      hm.1 (hgathered.within m (covered_collections h)).1, hs.objectAt_put hgathered,
      if_neg fun heq : s.number = m => hm.1 (heq ▸ s.covers_number)]
    exact hgathered.object m hm.1

/-- **The queue is worked off**: each collection gets its objects, and nothing else changes.  It fails
exactly if one of the collections has no value. -/
theorem run_yields {fuel : Nat} (hp : b.Pending spots)
    (hfuel : Tree.sizeOfAll (spots.map Spot.tree) ≤ fuel) :
    Yields (run fuel b) (∀ s ∈ spots, s.tree.datum?.isSome) fun b' =>
      ((∀ s ∈ spots, Built b'.objects s) ∧
        ∀ m, ¬ Covered spots m → b'.objectAt m = b.objectAt m) ∧
          b'.objects.size = b.objects.size := by
  induction fuel generalizing b spots with
  | zero =>
      cases spots with
      | nil => exact .ok (by simp) ⟨⟨by simp, fun _ _ => rfl⟩, rfl⟩
      | cons s rest =>
          have hpositive := s.tree.size_pos
          rw [List.map_cons, Tree.sizeOfAll] at hfuel
          omega
  | succ fuel ih =>
      cases spots with
      | nil =>
          rw [run, hp.queue]
          exact .ok (by simp) ⟨⟨by simp, fun _ _ => rfl⟩, rfl⟩
      | cons s rest =>
          obtain ⟨hs, hrest⟩ := List.forall_mem_cons.1 hp.waiting
          have hrun : run (fuel + 1) b = ({ b with queue := rest.map Spot.number }.fill s.number) >>=
              run fuel := by rw [run, hp.queue]; rfl
          have hw : ({ b with queue := rest.map Spot.number } : Builder).Waiting s :=
            ⟨hs.holds, hs.collection, hs.bound, hs.below, hs.sizes⟩
          rw [hrun]
          refine (fill_yields hw).bind (q := ∀ t ∈ s :: rest, t.tree.datum?.isSome) ?_ ?_
          · refine ⟨fun h => ⟨?_, h⟩, fun h => h.2⟩
            obtain ⟨parts, hparts, hvalues⟩ :=
              (Tree.isSome_datum? hs.collection).1 (h s List.mem_cons_self)
            exact ⟨parts, hparts, fun part hpart => Tree.isSome_begun? (hvalues part hpart)⟩
          · rintro b' - ⟨parts, spots, b₁, hparts, htrees, hgathered, rfl⟩
            have hsize := Tree.sizeOfAll_parts hparts
            have hle := sizeOfAll_collections spots
            rw [htrees] at hle
            rw [List.map_cons, Tree.sizeOfAll] at hfuel
            refine (ih (hp.after hgathered) ?_).imp ?_ ?_
            · rw [List.map_append, Tree.sizeOfAll_append]
              omega
            · rw [List.forall_mem_append, List.forall_mem_cons, and_comm,
                isSome_datum?_iff hs.collection hparts htrees hgathered.begins]
            · rintro b₂ - ⟨⟨hbuilt, hsame⟩, hobjects⟩
              refine ⟨hp.built hgathered hparts htrees hbuilt hsame, ?_⟩
              rw [hobjects, hgathered.sizes_put, hgathered.size, hs.sizes]

end Builder

/-! ### Values -/

theorem putEntry_map {α β : Type} (g : α → β) (key : Datum) (value : α)
    (filled : List (Datum × α)) :
    (putEntry key value filled).map (fun entry => (entry.1, g entry.2)) =
      putEntry key (g value) (filled.map fun entry => (entry.1, g entry.2)) := by
  induction filled with
  | nil => rfl
  | cons entry filled ih =>
      obtain ⟨k, v⟩ := entry
      rw [putEntry, List.map_cons, putEntry]
      split
      · rfl
      · rw [List.map_cons, ih]

theorem putAfter_map {α β : Type} (g : α → β) (filled entries : List (Datum × α)) :
    (putAfter filled entries).map (fun entry => (entry.1, g entry.2)) =
      putAfter (filled.map fun entry => (entry.1, g entry.2))
        (entries.map fun entry => (entry.1, g entry.2)) := by
  induction entries generalizing filled with
  | nil => rfl
  | cons entry entries ih => exact (ih _).trans (by rw [putEntry_map]; rfl)

theorem putAfter_zip_map {α β : Type} (g : α → β) (keys : List Datum) (values : List α) :
    (putAfter [] (keys.zip values)).map (fun entry => (entry.1, g entry.2)) =
      putAfter [] (keys.zip (values.map g)) := by
  rw [putAfter_map, List.zip_map_right]
  rfl

theorem pairUp_map {α β : Type} (g : α → β) (l : List α) :
    (Collector.pairUp l).map (fun pair => (g pair.1, g pair.2)) = Collector.pairUp (l.map g) := by
  match l with
  | [] => rfl
  | [_] => rfl
  | a :: a' :: l =>
      rw [Collector.pairUp, List.map_cons, pairUp_map g l]
      rfl

/-- The value of a collection is put together of those of its parts. -/
theorem Loaded.valueFrom_whole {l : Loaded} {fuel number : Nat} {path numbers : List Nat}
    {kind : Kind} (hobject : l.objects[number]?.getD none = some (kind.object numbers))
    (hpath : number ∉ path) :
    l.valueFrom (fuel + 1) path number =
      kind.whole (numbers.map (l.valueFrom fuel (number :: path))) := by
  rw [valueFrom, object, hobject]
  cases kind with
  | list => exact if_neg hpath
  | pairs =>
      refine (if_neg hpath).trans ?_
      rw [Kind.whole, ← pairUp_map, List.map_map]
      rfl
  | map keys =>
      refine (if_neg hpath).trans ?_
      rw [Kind.whole, ← putAfter_zip_map]
  | set keys =>
      rw [Kind.whole, ← putAfter_zip_map, List.map_map]
      rfl

theorem mapM_datum? {spots : List Spot} {value : Nat → Datum}
    (h : ∀ s ∈ spots, s.tree.datum? = some (value s.number)) :
    (spots.map Spot.tree).mapM Tree.datum? = some ((spots.map Spot.number).map value) := by
  induction spots with
  | nil => rfl
  | cons s spots ih =>
      obtain ⟨hs, hspots⟩ := List.forall_mem_cons.1 h
      exact mapM_cons_eq_some.2 ⟨_, _, hs, ih hspots, rfl⟩

/-- The value of a tree that is built, wherever it is met outside of the tree. -/
theorem Built.valueFrom_eq {l : Loaded} {s : Spot} (h : Built l.objects s) {fuel : Nat}
    {path : List Nat} (hfuel : s.tree.size ≤ fuel) (hpath : ∀ m ∈ path, ¬ s.Covers m) :
    s.tree.datum? = some (l.valueFrom fuel path s.number) := by
  induction h generalizing fuel path with
  | @scalar s d _ hdatum hobject =>
      obtain ⟨fuel, rfl⟩ := Nat.exists_eq_add_one_of_ne_zero
        (Nat.ne_of_gt (Nat.lt_of_lt_of_le s.tree.size_pos hfuel))
      rw [hdatum, Loaded.valueFrom, Loaded.object, hobject]
      rfl
  | @whole s parts spots hcollection hparts htrees hobject hwithin hbuilt ih =>
      obtain ⟨fuel, rfl⟩ := Nat.exists_eq_add_one_of_ne_zero
        (Nat.ne_of_gt (Nat.lt_of_lt_of_le s.tree.size_pos hfuel))
      have hnumber : s.number ∉ path := fun h => hpath _ h s.covers_number
      have hsmaller := Tree.sizeOfAll_parts hparts
      have hvalues : ∀ part ∈ spots,
          part.tree.datum? = some (l.valueFrom fuel (s.number :: path) part.number) := by
        intro part hpart
        have hmem : part.tree ∈ parts.trees := htrees ▸ List.mem_map_of_mem hpart
        have hle := Tree.size_le_of_mem hmem
        refine ih part hpart (by omega) fun m hm hm' => ?_
        have hbelow := hwithin m ⟨part, hpart, hm'⟩
        rcases List.mem_cons.1 hm with rfl | hm
        · exact hbelow.2 rfl
        · exact hpath m hm hbelow.1
      rw [Loaded.valueFrom_whole hobject hnumber, Tree.datum?_collection hcollection, hparts,
        Option.bind_some, ← htrees, mapM_datum? hvalues, Option.map_some]

/-- **The value of a tree that is built.** -/
theorem Built.value_eq {l : Loaded} {s : Spot} (h : Built l.objects s)
    (hsize : s.tree.size ≤ l.objects.size) : s.tree.datum? = some (l.value s.number) :=
  h.valueFrom_eq (Nat.le_succ_of_le hsize) fun _ hm => absurd hm List.not_mem_nil

/-! ### Documents -/

/-- **A document is loaded exactly if its tree has a value**, and then the objects of the tree are
there. -/
theorem ofGraph_yields {nodes : Array Node} {t : Tree} (h : Holds (nodeOf nodes) ⟨0, t⟩)
    (hsize : nodes.size = t.size) (hcollection : t.tag.isCollection = true) :
    Yields (Loaded.ofGraph ⟨nodes, some 0⟩) t.datum?.isSome fun l =>
      l.root = some 0 ∧ l.objects.size = nodes.size ∧ Built l.objects ⟨0, t⟩ := by
  have hstart (m : Nat) :
      (Array.replicate nodes.size (none : Option Object))[m]?.getD none = none := by
    rw [Array.getElem?_replicate]
    split <;> rfl
  have hcovers {m : Nat} (hm : Covered [⟨0, t⟩] m) : m < nodes.size := by
    simp only [covered_cons, covered_nil, or_false, Spot.Covers] at hm
    omega
  have hfresh : Builder.Fresh ⟨nodes, Array.replicate nodes.size none, []⟩ [⟨0, t⟩] :=
    ⟨⟨fun s hs => List.mem_singleton.1 hs ▸ h, List.pairwise_singleton ..⟩,
      fun m hm => hcovers hm, fun m _ => hstart m, Array.size_replicate⟩
  refine (Builder.build_yields hfresh).bind (q := t.datum?.isSome)
    ⟨fun h => ⟨Tree.isSome_begun? h, h⟩, fun h => h.2⟩ fun b _ hbegun => ?_
  have hwaiting : b.Waiting ⟨0, t⟩ := by
    refine ⟨?_, hcollection, fun m hm => ?_, fun m _ hne => ?_, ?_⟩
    · rw [hbegun.node_eq]
      exact h
    · rw [hbegun.nodes]
      exact hcovers ⟨_, List.mem_cons_self, hm⟩
    · rw [hbegun.others m fun s hs heq => hne (heq ▸ congrArg Spot.number (List.mem_singleton.1 hs))]
      exact hstart m
    · rw [hbegun.size, hbegun.nodes, Array.size_replicate]
  have hpending : b.Pending [⟨0, t⟩] := by
    refine ⟨?_, fun s hs => List.mem_singleton.1 hs ▸ hwaiting, List.pairwise_singleton ..⟩
    rw [hbegun.queue, List.filter_cons, hcollection]
    rfl
  have hfuel : Tree.sizeOfAll ([⟨0, t⟩].map Spot.tree) ≤ nodes.size + 1 := by
    simp only [List.map_cons, List.map_nil, Tree.sizeOfAll]
    omega
  have hrun := Builder.run_yields hpending hfuel
  have hloaded : Yields ((b.run (nodes.size + 1)).bind fun b => .ok (⟨b.objects, some 0⟩ : Loaded))
      (∀ s ∈ [(⟨0, t⟩ : Spot)], s.tree.datum?.isSome) fun l =>
        l.root = some 0 ∧ l.objects.size = nodes.size ∧ Built l.objects ⟨0, t⟩ := by
    refine hrun.map fun b' _ h => ?_
    obtain ⟨⟨hbuilt, -⟩, hobjects⟩ := h
    refine ⟨rfl, hobjects.trans ?_, hbuilt _ List.mem_cons_self⟩
    rw [hbegun.size, Array.size_replicate]
  exact hloaded.imp (by simp) fun _ _ h => h

end EntryTemplates.Document
