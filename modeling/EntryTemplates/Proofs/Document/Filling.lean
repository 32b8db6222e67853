/-
**Filling a collection.**

A collection that is filled gets the numbers of its parts, and each part begins.  Nothing outside of
the collection changes, and below its parts there is nothing yet.

Main definitions:

* `EntryTemplates.Document.Builder.Waiting` — a collection that waits to be filled;
* `EntryTemplates.Document.Builder.Gathered` — the parts of a collection that have begun.

Main results:

* `EntryTemplates.Document.Builder.fill_yields` — **a collection is filled with its parts, or fails
  exactly if it has none or one of them cannot begin**.
-/

import EntryTemplates.Proofs.Document.Begun
import EntryTemplates.Proofs.Document.EntryObjects
import Mathlib.Data.List.Pairwise

set_option relaxedAutoImplicit false
set_option autoImplicit false

namespace EntryTemplates.Document

theorem Tree.isSome_begun?_of_key? {t : Tree} (h : t.key?.isSome) : t.begun?.isSome := by
  rw [key?] at h
  split at h
  · rename_i hbegun
    rw [hbegun]
    rfl
  · cases h

/-- A key has no parts. -/
theorem Tree.isCollection_of_key? {t : Tree} {d : Datum} (h : t.key? = some d) :
    t.tag.isCollection = false := by
  rw [key?, begun?] at h
  cases htag : t.tag with
  | seq | orderedMap | pairs | map | set => rw [htag] at h; cases h
  | merge | value | other | null | bool | int | float | binary | timestamp | str => rfl

/-! ### Mappings with one entry -/

theorem Holds.node_sequence {node : Nat → Node} {n : Nat} {tag : Tag} {items : List Tree}
    (h : Holds node ⟨n, .sequence tag items⟩) :
    node n = ⟨tag, .sequence ((spotsFrom (n + 1) items).map Spot.number)⟩ := by
  cases h with
  | sequence hnode _ => exact hnode

/-- A mapping with one entry, and nothing else, is a pair. -/
theorem Holds.single {node : Nat → Node} {item : Spot} (h : Holds node item) {key value : Tree}
    (hsingle : item.tree.single? = some (key, value)) :
    ∃ first second : Spot, first.tree = key ∧ second.tree = value ∧
      (node item.number).content = .mapping [(first.number, second.number)] ∧
        Placed node [first, second] ∧ ∀ m, Covered [first, second] m → item.Covers m := by
  cases h with
  | scalar => cases hsingle
  | sequence => cases hsingle
  | @mapping n tag entries hnode hentries =>
      obtain ⟨hplaced, hbelow⟩ := (Holds.mapping hnode hentries).placed_entries
      match entries, hsingle with
      | [(_, _)], hsingle =>
          obtain ⟨rfl, rfl⟩ := Prod.mk.inj (Option.some.inj hsingle)
          exact ⟨_, _, rfl, rfl, by rw [hnode]; rfl, hplaced, fun m hm => (hbelow m hm).2⟩

theorem Holds.not_single {node : Nat → Node} {item : Spot} (h : Holds node item)
    (hsingle : item.tree.single? = none) (entry : Nat × Nat) :
    (node item.number).content ≠ .mapping [entry] := by
  cases h with
  | scalar hnode => rw [hnode]; exact fun h => by cases h
  | sequence hnode _ => rw [hnode]; exact fun h => by cases h
  | @mapping n tag entries hnode _ =>
      rw [hnode]
      intro h
      match entries, hsingle with
      | [], _ => cases h
      | _ :: _ :: _, _ => cases h

namespace Builder

variable {b b₁ b₂ : Builder} {s : Spot} {spots all : List Spot}

/-! ### Entries of a mapping -/

/-- One entry: its key must be a scalar, and its value begins. -/
theorem fillEntry_yields {key value : Spot} (hfresh : b.Fresh ([key] ++ [value]))
    (filled : List (Datum × Nat)) :
    Yields (fillEntry (b, filled) (key.number, value.number))
      (key.tree.key?.isSome ∧ value.tree.begun?.isSome) fun after =>
        Begun b [key, value] after.1 ∧
          ∃ d, key.tree.key? = some d ∧ after.2 = putEntry d value.number filled := by
  obtain ⟨hkey, hvalue, hapart⟩ := hfresh.split
  refine (build_yields hkey).bind
    ⟨fun h => ⟨Tree.isSome_begun?_of_key? h.1, h⟩, fun h => h.2⟩ fun b₁ _ h => ?_
  have hthere : b₁.objects[key.number]?.getD none = key.tree.begun? :=
    h.there key List.mem_cons_self
  rw [hthere, Tree.key?]
  cases key.tree.begun? with
  | none => exact Yields.noValue (by simp)
  | some o =>
      cases o with
      | scalar d =>
          have hlast : Yields ((b₁.build value.number).bind fun b₂ =>
              .ok (b₂, putEntry d value.number filled)) value.tree.begun?.isSome fun after =>
                Begun b [key, value] after.1 ∧
                  ∃ d', some d = some d' ∧ after.2 = putEntry d' value.number filled :=
            (build_yields (h.fresh hvalue hapart)).map fun b₂ _ h' =>
              ⟨h.append h' hapart, d, rfl, rfl⟩
          exact hlast.imp (by simp) fun _ _ h => h
      | list _ => exact Yields.noValue (by simp)
      | pairs _ => exact Yields.noValue (by simp)
      | map _ => exact Yields.noValue (by simp)
      | set _ => exact Yields.noValue (by simp)

/-- **All entries**: their keys must be scalars, and their values begin. -/
theorem foldlM_fillEntry_yields {entries : List (Spot × Spot)} (hfresh : b.Fresh (spotsOf entries))
    (filled : List (Datum × Nat)) :
    Yields ((entryNumbers entries).foldlM fillEntry (b, filled))
      ((Tree.keysOf? (treesOf entries)).isSome ∧ ∀ entry ∈ entries, entry.2.tree.begun?.isSome)
      fun after => Begun b (spotsOf entries) after.1 ∧
        ∃ keys, Tree.keysOf? (treesOf entries) = some keys ∧ after.2 =
          putAfter filled (keys.zip (entries.map fun entry => entry.2.number)) := by
  induction entries generalizing b filled with
  | nil => exact .ok (by simp [Tree.keysOf?]) ⟨.nil b, [], rfl, rfl⟩
  | cons entry entries ih =>
      obtain ⟨key, value⟩ := entry
      obtain ⟨hone, hrest, hapart⟩ : b.Fresh [key, value] ∧ b.Fresh (spotsOf entries) ∧ _ :=
        hfresh.split
      rw [entryNumbers_cons, List.foldlM_cons, treesOf_cons, Tree.keysOf?, isSome_mapM_cons,
        List.forall_mem_cons]
      refine (fillEntry_yields hone filled).bind (and_and_and_comm) ?_
      rintro after - ⟨hbegun, d, hd, hput⟩
      refine (ih (hbegun.fresh hrest hapart) after.2).imp Iff.rfl ?_
      rintro after' - ⟨hbegun', keys, hkeys, hput'⟩
      refine ⟨hbegun.append hbegun' hapart, d :: keys, ?_, ?_⟩
      · exact mapM_cons_eq_some.2 ⟨d, keys, hd, hkeys, rfl⟩
      · rw [hput', hput]
        rfl

/-! ### Pairs -/

/-- One more pair: the item must be a mapping with one entry. -/
def fillPair (state : Builder × List (Nat × Nat)) (item : Nat) :
    Except Failure (Builder × List (Nat × Nat)) :=
  match (state.1.node item).content with
  | .mapping [(key, value)] =>
      (state.1.buildAll [key, value]).bind fun b => .ok (b, state.2 ++ [(key, value)])
  | _ => noValue

/-- **All pairs**: their items must be mappings with one entry, whose key and value begin. -/
theorem foldlM_fillPair_yields {items : List Spot} (hfresh : b.Fresh items)
    (filled : List (Nat × Nat)) :
    Yields ((items.map Spot.number).foldlM fillPair (b, filled))
      (∃ pairs, (items.map Spot.tree).mapM Tree.single? = some pairs ∧
        ∀ t ∈ pairs.flatMap fun entry => [entry.1, entry.2], t.begun?.isSome)
      fun after => ∃ entries : List (Spot × Spot),
        (items.map Spot.tree).mapM Tree.single? = some (treesOf entries) ∧
          after.2 = filled ++ entryNumbers entries ∧ Begun b (spotsOf entries) after.1 ∧
            Placed b.node (spotsOf entries) ∧ ∀ m, Covered (spotsOf entries) m → Covered items m := by
  induction items generalizing b filled with
  | nil =>
      exact .ok ⟨[], rfl, by simp⟩ ⟨[], rfl, by simp, .nil b, ⟨by simp, .nil⟩, fun m hm => hm⟩
  | cons item items ih =>
      obtain ⟨hone, hrest, hapart⟩ : b.Fresh [item] ∧ b.Fresh items ∧ _ := hfresh.split
      have hholds := hone.placed.head
      rw [List.map_cons, List.map_cons, List.foldlM_cons]
      cases hsingle : item.tree.single? with
      | none =>
          have hfail : fillPair (b, filled) item.number = noValue := by
            rw [fillPair]
            split
            · exact absurd ‹_› (hholds.not_single hsingle _)
            · rfl
          rw [hfail]
          refine Yields.noValue ?_
          rintro ⟨pairs, hpairs, -⟩
          obtain ⟨pair, _, hpair, -⟩ := mapM_cons_eq_some.1 hpairs
          rw [hsingle] at hpair
          cases hpair
      | some pair =>
          obtain ⟨key, value⟩ := pair
          obtain ⟨first, second, rfl, rfl, hcontent, hplaced, hwithin⟩ := hholds.single hsingle
          have hpair : fillPair (b, filled) item.number =
              (b.buildAll [first.number, second.number]).bind fun b =>
                .ok (b, filled ++ [(first.number, second.number)]) := by
            rw [fillPair, hcontent]
          have hbelow : ∀ m, Covered [first, second] m → Covered [item] m := fun m hm =>
            ⟨item, List.mem_cons_self, hwithin m hm⟩
          have hbuild : Yields ((b.buildAll [first.number, second.number]).bind fun b =>
              .ok (b, filled ++ [(first.number, second.number)]))
              (∀ s ∈ [first, second], s.tree.begun?.isSome) fun after =>
                Begun b [first, second] after.1 ∧
                  after.2 = filled ++ [(first.number, second.number)] :=
            (buildAll_yields (hone.within hplaced hbelow)).map fun _ _ h => ⟨h, rfl⟩
          rw [hpair]
          refine hbuild.bind (q := ∃ pairs, (items.map Spot.tree).mapM Tree.single? = some pairs ∧
            ∀ t ∈ pairs.flatMap fun entry => [entry.1, entry.2], t.begun?.isSome) ?_ ?_
          · constructor
            · rintro ⟨pairs, hpairs, hbegin⟩
              obtain ⟨pair, more, hpair, hmore, rfl⟩ := mapM_cons_eq_some.1 hpairs
              obtain rfl := Option.some.inj (hsingle.symm.trans hpair)
              obtain ⟨hfirst, hmore'⟩ := List.forall_mem_append.1 hbegin
              exact ⟨by simpa using hfirst, more, hmore, hmore'⟩
            · rintro ⟨hfirst, more, hmore, hbegin⟩
              refine ⟨_, mapM_cons_eq_some.2 ⟨_, more, hsingle, hmore, rfl⟩, ?_⟩
              exact List.forall_mem_append.2 ⟨by simpa using hfirst, hbegin⟩
          · rintro after - ⟨hbegun, hfilled⟩
            have hbelow' : ∀ m, Covered [first, second] m → ¬ Covered items m := fun m hm =>
              hapart m (hbelow m hm)
            refine (ih (hbegun.fresh hrest hbelow') after.2).imp Iff.rfl ?_
            rintro after' - ⟨entries, hentries, hfilled', hbegun', hplaced', hwithin'⟩
            have hapart' : ∀ m, Covered [first, second] m → ¬ Covered (spotsOf entries) m :=
              fun m hm hm' => hbelow' m hm (hwithin' m hm')
            rw [hbegun.node_eq] at hplaced'
            refine ⟨(first, second) :: entries, ?_, ?_, hbegun.append hbegun' hapart',
              hplaced.append hplaced' hapart', fun m hm => ?_⟩
            · exact mapM_cons_eq_some.2 ⟨_, _, hsingle, hentries, rfl⟩
            · rw [hfilled', hfilled, entryNumbers_cons, List.append_assoc, List.singleton_append]
            · have hm : Covered ([first, second] ++ spotsOf entries) m := hm
              rcases covered_append.1 hm with hm | hm
              · exact covered_cons.2 (.inl (hwithin m hm))
              · exact covered_cons.2 (.inr (hwithin' m hm))

/-! ### Collections -/

/-- A collection that waits to be filled: nothing below it has an object yet. -/
structure Waiting (b : Builder) (s : Spot) : Prop where
  holds : Holds b.node s
  collection : s.tree.tag.isCollection = true
  bound : ∀ m, s.Covers m → m < b.nodes.size
  below : ∀ m, s.Covers m → m ≠ s.number → b.objectAt m = none
  sizes : b.objects.size = b.nodes.size

/-- The parts of a collection have begun.  Below them there is nothing yet, and nothing outside of the
collection has changed. -/
structure Gathered (b : Builder) (s : Spot) (parts : List Spot) (b' : Builder) : Prop where
  placed : Placed b'.node parts
  within : ∀ m, Covered parts m → s.Covers m ∧ m ≠ s.number
  begins : ∀ part ∈ parts, part.tree.begun?.isSome
  there : ∀ part ∈ parts, b'.objectAt part.number = part.tree.begun?
  below : ∀ m, Covered parts m → (∀ part ∈ parts, part.number ≠ m) → b'.objectAt m = none
  node : ∀ m, ¬ s.Covers m → b'.node m = b.node m
  object : ∀ m, ¬ s.Covers m → b'.objectAt m = b.objectAt m
  queue : b'.queue =
    b.queue ++ (parts.filter fun s => s.tree.tag.isCollection).map Spot.number
  size : b'.nodes.size = b.nodes.size
  sizes : b'.objects.size = b'.nodes.size

namespace Waiting

variable {parts : List Spot}

/-- Trees below the collection are fresh, wherever in it they have come from. -/
theorem fresh (hw : b.Waiting s) (hmoved : Moved b s.Covers all b₁)
    (hnumber : ¬ Covered all s.number) : b₁.Fresh all := by
  refine ⟨hmoved.placed, fun m hm => ?_, fun m hm => ?_, ?_⟩
  · rw [hmoved.size]
    exact hw.bound m (hmoved.within m hm)
  · rw [objectAt, hmoved.objects]
    exact hw.below m (hmoved.within m hm) fun heq => hnumber (heq ▸ hm)
  · rw [hmoved.objects, hmoved.size]
    exact hw.sizes

/-- All that has begun below the collection are its parts, and keys that have no parts of their
own. -/
theorem gathered (hw : b.Waiting s) (hmoved : Moved b s.Covers all b₁)
    (hnumber : ¬ Covered all s.number) (hbegun : Begun b₁ all b₂) (hparts : parts.Sublist all)
    (hkeys : (all.filter fun s => s.tree.tag.isCollection) =
      parts.filter fun s => s.tree.tag.isCollection) : Gathered b s parts b₂ := by
  have hsub : ∀ m, Covered parts m → Covered all m := fun m ⟨part, hpart, hm⟩ =>
    ⟨part, hparts.subset hpart, hm⟩
  have hfresh := hw.fresh hmoved hnumber
  refine ⟨?_, fun m hm => ?_, fun part hpart => hbegun.begins part (hparts.subset hpart),
    fun part hpart => hbegun.there part (hparts.subset hpart), fun m hm hne => ?_, fun m hm => ?_,
    fun m hm => ?_, ?_, ?_, ?_⟩
  · rw [hbegun.node_eq]
    exact ⟨fun part hpart => hmoved.placed.holds part (hparts.subset hpart),
      hmoved.placed.apart.sublist hparts⟩
  · exact ⟨hmoved.within m (hsub m hm), fun heq => hnumber (heq ▸ hsub m hm)⟩
  · obtain ⟨part, hpart, hm⟩ := hm
    rw [hbegun.others m fun other hother heq => ?_]
    · exact hfresh.free m ⟨part, hparts.subset hpart, hm⟩
    · have hapart := hmoved.placed.apart.forall hother (hparts.subset hpart)
        fun h => hne part hpart (h ▸ heq)
      exact hapart m (heq ▸ other.covers_number) hm
  · rw [hbegun.node_eq]
    exact hmoved.same m hm
  · rw [hbegun.objectAt_eq fun hm' => hm (hmoved.within m hm'), objectAt, hmoved.objects, objectAt]
  · rw [hbegun.queue, hmoved.queue, hkeys]
  · rw [hbegun.nodes, hmoved.size]
  · rw [hbegun.size, hbegun.nodes, hmoved.objects, hmoved.size, hw.sizes]

end Waiting

/-- A collection is filled with its parts, each of which has begun. -/
def Filled (b : Builder) (s : Spot) (b' : Builder) : Prop :=
  ∃ parts spots b₁, s.tree.parts? = some parts ∧ spots.map Spot.tree = parts.trees ∧
    Gathered b s spots b₁ ∧ b' = b₁.put s.number (parts.kind.object (spots.map Spot.number))

/-- The condition under which a collection can be filled. -/
def Fillable (t : Tree) : Prop :=
  ∃ parts, t.parts? = some parts ∧ ∀ part ∈ parts.trees, part.begun?.isSome

theorem fillable_iff {t : Tree} {parts : Parts} (hparts : t.parts? = some parts) :
    Fillable t ↔ ∀ part ∈ parts.trees, part.begun?.isSome := by
  refine ⟨?_, fun h => ⟨parts, hparts, h⟩⟩
  rintro ⟨parts', hparts', h⟩
  obtain rfl := Option.some.inj (hparts.symm.trans hparts')
  exact h

theorem forall_spots_iff {trees : List Tree} (htrees : spots.map Spot.tree = trees) :
    (∀ s ∈ spots, s.tree.begun?.isSome) ↔ ∀ t ∈ trees, t.begun?.isSome := by
  rw [← htrees, List.forall_mem_map]

theorem pairUp_map_spotsOf (entries : List (Spot × Spot)) :
    Collector.pairUp ((spotsOf entries).map Spot.number) = entryNumbers entries := by
  induction entries with
  | nil => rfl
  | cons entry entries ih =>
      rw [spotsOf_cons, List.map_cons, List.map_cons, Collector.pairUp, ih, entryNumbers_cons]

theorem map_tree_spotsOf (entries : List (Spot × Spot)) : (spotsOf entries).map Spot.tree =
    (treesOf entries).flatMap fun entry => [entry.1, entry.2] := by
  induction entries with
  | nil => rfl
  | cons entry entries ih =>
      rw [spotsOf_cons, List.map_cons, List.map_cons, ih, treesOf_cons, List.flatMap_cons]
      rfl

/-- A list: its items begin. -/
theorem fill_yields_list {n : Nat} {items : List Tree} (hw : b.Waiting ⟨n, .sequence .seq items⟩) :
    Yields (b.fill n) (Fillable (.sequence .seq items)) (Filled b ⟨n, .sequence .seq items⟩) := by
  obtain ⟨hplaced, hbelow⟩ := hw.holds.placed_items
  have hnumber : ¬ Covered (spotsFrom (n + 1) items) n := fun h => Nat.lt_irrefl n (hbelow n h).1
  have hmoved : Moved b (⟨n, .sequence .seq items⟩ : Spot).Covers (spotsFrom (n + 1) items) b :=
    ⟨hplaced, fun m hm => (hbelow m hm).2, fun _ _ => rfl, rfl, rfl, rfl⟩
  have hfill : b.fill n = (b.buildAll ((spotsFrom (n + 1) items).map Spot.number)).bind fun b =>
      .ok (b.put n (.list ((spotsFrom (n + 1) items).map Spot.number))) := by
    rw [fill, hw.holds.node_sequence]
    rfl
  have hparts : (Tree.sequence .seq items).parts? = some ⟨.list, items⟩ := rfl
  have htrees := map_tree_spotsFrom (n + 1) items
  rw [hfill, fillable_iff hparts]
  refine ((buildAll_yields (hw.fresh hmoved hnumber)).map fun b₁ _ hbegun => ?_).imp ?_
    fun _ _ h => h
  · exact ⟨_, _, b₁, hparts, htrees, hw.gathered hmoved hnumber hbegun (.refl _) rfl, rfl⟩
  · exact forall_spots_iff htrees

/-- Pairs: their keys and values begin. -/
theorem fill_yields_pairs {n : Nat} {tag : Tag} {items : List Tree}
    (hw : b.Waiting ⟨n, .sequence tag items⟩) (htag : tag = .orderedMap ∨ tag = .pairs) :
    Yields (b.fill n) (Fillable (.sequence tag items)) (Filled b ⟨n, .sequence tag items⟩) := by
  obtain ⟨hplaced, hbelow⟩ := hw.holds.placed_items
  have hnumber : ¬ Covered (spotsFrom (n + 1) items) n := fun h => Nat.lt_irrefl n (hbelow n h).1
  have hmoved : Moved b (⟨n, .sequence tag items⟩ : Spot).Covers (spotsFrom (n + 1) items) b :=
    ⟨hplaced, fun m hm => (hbelow m hm).2, fun _ _ => rfl, rfl, rfl, rfl⟩
  have hfill : b.fill n = (((spotsFrom (n + 1) items).map Spot.number).foldlM fillPair (b, [])).bind
      fun after => .ok (after.1.put n (.pairs after.2)) := by
    rw [fill, hw.holds.node_sequence]
    rcases htag with rfl | rfl <;> rfl
  have hparts : (Tree.sequence tag items).parts? = Tree.pairParts? items := by
    rcases htag with rfl | rfl <;> rfl
  have hall := foldlM_fillPair_yields (hw.fresh hmoved hnumber) []
  rw [map_tree_spotsFrom] at hall
  rw [hfill]
  refine (hall.map fun after _ h => ?_).imp ?_ fun _ _ h => h
  · obtain ⟨entries, hentries, hfilled, hbegun, hplaced', hwithin⟩ := h
    have hmoved' : Moved b (⟨n, .sequence tag items⟩ : Spot).Covers (spotsOf entries) b :=
      ⟨hplaced', fun m hm => (hbelow m (hwithin m hm)).2, fun _ _ => rfl, rfl, rfl, rfl⟩
    have hgathered := hw.gathered hmoved' (mt (hwithin n) hnumber) hbegun (.refl _) rfl
    refine ⟨⟨.pairs, (treesOf entries).flatMap fun entry => [entry.1, entry.2]⟩, spotsOf entries,
      after.1, ?_, map_tree_spotsOf entries, hgathered, ?_⟩
    · rw [hparts, Tree.pairParts?, hentries, Option.map_some]
    · rw [hfilled, List.nil_append, Kind.object, pairUp_map_spotsOf]
  · constructor
    · rintro ⟨pairs, hpairs, hbegin⟩
      exact ⟨_, by rw [hparts, Tree.pairParts?, hpairs, Option.map_some], hbegin⟩
    · rintro ⟨parts, hsome, hbegin⟩
      obtain ⟨pairs, hpairs, rfl⟩ := Option.map_eq_some_iff.1 (hparts.symm.trans hsome)
      exact ⟨pairs, hpairs, hbegin⟩

theorem values_sublist (entries : List (Spot × Spot)) :
    (entries.map Prod.snd).Sublist (spotsOf entries) := by
  induction entries with
  | nil => exact .slnil
  | cons entry entries ih => exact .cons _ (ih.cons_cons _)

theorem filter_spotsOf {entries : List (Spot × Spot)} {keys : List Datum}
    (hkeys : Tree.keysOf? (treesOf entries) = some keys) :
    ((spotsOf entries).filter fun s => s.tree.tag.isCollection) =
      (entries.map Prod.snd).filter fun s => s.tree.tag.isCollection := by
  induction entries generalizing keys with
  | nil => rfl
  | cons entry entries ih =>
      obtain ⟨d, more, hd, hmore, -⟩ := mapM_cons_eq_some.1 hkeys
      rw [spotsOf_cons, List.filter_cons, Tree.isCollection_of_key? hd, List.map_cons,
        List.filter_cons, List.filter_cons, ih hmore]
      rfl

/-- The condition under which a mapping can be filled. -/
def MappingFillable (t : Tree) : Prop :=
  ∃ brought, t.brought? = some brought ∧ (Tree.keysOf? brought).isSome ∧
    ∀ entry ∈ brought, entry.2.begun?.isSome

/-- A mapping: merge keys are resolved, the keys must be scalars, and the values begin. -/
theorem fillMapping_yields {n : Nat} {tag : Tag} {entries : List (Tree × Tree)}
    (hw : b.Waiting ⟨n, .mapping tag entries⟩) :
    Yields (b.fillMapping n) (MappingFillable (.mapping tag entries)) fun after =>
      ∃ (brought : List (Spot × Spot)) (keys : List Datum),
        (Tree.mapping tag entries).brought? = some (treesOf brought) ∧
          Tree.keysOf? (treesOf brought) = some keys ∧
            after.2 = putAfter [] (keys.zip (brought.map fun entry => entry.2.number)) ∧
              Gathered b ⟨n, .mapping tag entries⟩ (brought.map Prod.snd) after.1 := by
  have hmapping : b.isMapping n = true := by rw [isMapping, hw.holds.node_mapping]
  have hfits : n + (Tree.sizeOfEntries entries + 1) ≤ b.nodes.size := by
    have hlast := hw.bound (n + Tree.sizeOfEntries entries)
      ⟨Nat.le_add_right _ _, Nat.lt_succ_self _⟩
    omega
  have hlimit : Tree.sizeOfEntries entries <
      (b.entryCount + 2) * (b.entryCount + 2) + b.nodes.size :=
    Nat.lt_of_lt_of_le (by omega) (Nat.le_add_left _ _)
  have hflatten := flattenFrom_mapping (flattenFrom_yields _) hw.holds hlimit
  rw [fillMapping, hmapping]
  refine hflatten.bind (q := MappingFillable (.mapping tag entries)) ?_ ?_
  · refine ⟨fun h => ⟨?_, h⟩, fun h => h.2⟩
    obtain ⟨brought, hbrought, -⟩ := h
    rw [hbrought]
    rfl
  · rintro b₁ - ⟨brought, hbrought, hentries, hmoved, hnumber⟩
    have hfill := foldlM_fillEntry_yields (hw.fresh hmoved hnumber) []
    rw [hentries, fillEntries_eq]
    refine hfill.imp ⟨fun h => ⟨_, hbrought, h.1, List.forall_mem_map.2 h.2⟩, ?_⟩ ?_
    · rintro ⟨trees, htrees, hkeys, hbegin⟩
      obtain rfl := Option.some.inj (hbrought.symm.trans htrees)
      exact ⟨hkeys, List.forall_mem_map.1 hbegin⟩
    · rintro after - ⟨hbegun, keys, hkeys, hput⟩
      exact ⟨brought, keys, hbrought, hkeys, hput,
        hw.gathered hmoved hnumber hbegun (values_sublist brought) (filter_spotsOf hkeys)⟩

@[simp] theorem map_noValue {α β : Type} (f : α → β) :
    f <$> (noValue : Except Failure α) = noValue := rfl

/-- Mappings and sets: the values of their entries are their parts. -/
theorem fill_yields_values {n : Nat} {tag : Tag} {entries : List (Tree × Tree)}
    (kind : List Datum → Kind) (object : List (Datum × Nat) → Object)
    (hw : b.Waiting ⟨n, .mapping tag entries⟩)
    (hparts : (Tree.mapping tag entries).parts? = Tree.valueParts? kind (.mapping tag entries))
    (hobject : ∀ keys numbers, (kind keys).object numbers = object (putAfter [] (keys.zip numbers)))
    (hfill : b.fill n =
      (b.fillMapping n).bind fun after => .ok (after.1.put n (object after.2))) :
    Yields (b.fill n) (Fillable (.mapping tag entries)) (Filled b ⟨n, .mapping tag entries⟩) := by
  have hvalues {brought : List (Tree × Tree)} {keys : List Datum}
      (hbrought : (Tree.mapping tag entries).brought? = some brought)
      (hkeys : Tree.keysOf? brought = some keys) :
      (Tree.mapping tag entries).parts? = some ⟨kind keys, brought.map Prod.snd⟩ := by
    rw [hparts, Tree.valueParts?, hbrought, Option.bind_eq_bind, Option.bind_some, hkeys]
    rfl
  rw [hfill]
  refine ((fillMapping_yields hw).map fun after _ h => ?_).imp ?_ fun _ _ h => h
  · obtain ⟨brought, keys, hbrought, hkeys, hput, hgathered⟩ := h
    refine ⟨⟨kind keys, (treesOf brought).map Prod.snd⟩, brought.map Prod.snd, after.1,
      hvalues hbrought hkeys, ?_, hgathered, ?_⟩
    · simp [treesOf]
    · rw [hput, hobject, List.map_map]
      rfl
  · constructor
    · rintro ⟨brought, hbrought, hkeys, hbegin⟩
      obtain ⟨keys, hkeys⟩ := Option.isSome_iff_exists.1 hkeys
      exact ⟨_, hvalues hbrought hkeys, List.forall_mem_map.2 hbegin⟩
    · rintro ⟨parts, hsome, hbegin⟩
      obtain ⟨brought, hbrought, h⟩ := Option.bind_eq_some_iff.1 (hparts.symm.trans hsome)
      obtain ⟨keys, hkeys, h⟩ := Option.bind_eq_some_iff.1 h
      obtain rfl := Option.some.inj h
      exact ⟨brought, hbrought, by rw [hkeys]; rfl, List.forall_mem_map.1 hbegin⟩

/-- **A collection is filled with its parts**, or fails exactly if it has none or one of them cannot
begin. -/
theorem fill_yields (hw : b.Waiting s) :
    Yields (b.fill s.number) (Fillable s.tree) (Filled b s) := by
  obtain ⟨n, t⟩ := s
  have hfail (hnone : t.parts? = none) (hfill : b.fill n = noValue) :
      Yields (b.fill n) (Fillable t) (Filled b ⟨n, t⟩) := by
    rw [hfill]
    refine Yields.noValue ?_
    rintro ⟨parts, hparts, -⟩
    rw [hnone] at hparts
    cases hparts
  have hcollection := hw.collection
  cases t with
  | scalar tag text =>
      have hnode : b.node n = ⟨tag, .scalar text⟩ := by
        cases hw.holds with
        | scalar hnode => exact hnode
      refine hfail rfl ?_
      cases tag <;> simp [fill, hnode, fillMapping, isMapping]
  | sequence tag items =>
      have hnode := hw.holds.node_sequence
      cases tag with
      | seq => exact fill_yields_list hw
      | orderedMap => exact fill_yields_pairs hw (.inl rfl)
      | pairs => exact fill_yields_pairs hw (.inr rfl)
      | map => exact hfail rfl (by simp [fill, hnode, fillMapping, isMapping])
      | set => exact hfail rfl (by simp [fill, hnode, fillMapping, isMapping])
      | _ => cases hcollection
  | mapping tag entries =>
      have hnode := hw.holds.node_mapping
      cases tag with
      | map =>
          refine fill_yields_values .map .map hw rfl (fun _ _ => rfl) ?_
          rw [fill, hnode]
          rfl
      | set =>
          refine fill_yields_values .set (fun filled => .set (filled.map Prod.fst)) hw rfl
            (fun _ _ => rfl) ?_
          rw [fill, hnode]
          rfl
      | seq => exact hfail rfl (by simp [fill, hnode])
      | orderedMap => exact hfail rfl (by simp [fill, hnode])
      | pairs => exact hfail rfl (by simp [fill, hnode])
      | _ => cases hcollection

end Builder

end EntryTemplates.Document
