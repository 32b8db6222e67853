/-
**Documents that are mappings under texts.**

Where the keys of a mapping are texts, none of them is a merge key, and the mapping is loaded as it
is written.  Under a key stands the value of the node that was given to it, whatever else the mapping
holds.

Main definitions:

* `EntryTemplates.Document.Tells` — the text is such a mapping, with these entries;
* `EntryTemplates.Document.said` — the value under a key;
* `EntryTemplates.Document.ScalarEntry` — an entry with a scalar.

Main results:

* `EntryTemplates.Document.load_tells` — **such a text is loaded exactly if all its values can be**,
  and then what stands under a key is the value under it.
-/

import EntryTemplates.Proofs.Document.Loading

set_option relaxedAutoImplicit false
set_option autoImplicit false

namespace EntryTemplates.Document

/-- The entry of a mapping under a key that is a text. -/
def keyed (entry : String × Tree) : Tree × Tree := (.scalar .str entry.1, entry.2)

/-- The text is a document that is a mapping with these entries.  Their keys are texts that differ,
and none of their values has an anchor or an alias in it. -/
structure Tells (text : String) (entries : List (String × Tree)) : Prop where
  allowed : text.toList.all isAllowed = true
  spells : ∃ label es, Collector.collectionTag label .map = .map ∧
    SpellsAll ((entries.map keyed).flatMap fun entry => [entry.1, entry.2]) es ∧
      (events (tokens text.toList)).items = documentOf (.mappingStart label :: (es ++ [.mappingEnd]))
  distinct : (entries.map Prod.fst).Nodup

/-- The value under a key, if there is one. -/
def said (entries : List (String × Tree)) (key : String) : Option Datum :=
  (entries.find? fun entry => entry.1 = key).bind fun entry => entry.2.datum?

section Said

variable {entries : List (String × Tree)} {key : String}

/-- Where all keys differ, the value under a key is that of any node that was given to it. -/
theorem said_eq_some_iff (h : (entries.map Prod.fst).Nodup) {d : Datum} :
    said entries key = some d ↔ ∃ value, (key, value) ∈ entries ∧ value.datum? = some d := by
  induction entries with
  | nil => simp [said]
  | cons entry entries ih =>
      obtain ⟨key', value'⟩ := entry
      obtain ⟨hnew, hrest⟩ := List.nodup_cons.1 h
      rw [said, List.find?_cons]
      by_cases hkey : key' = key
      · subst hkey
        have hnot (value : Tree) : (key', value) ∉ entries := fun hmem =>
          hnew (List.mem_map.2 ⟨_, hmem, rfl⟩)
        simp [hnot]
      · rw [said] at ih
        simp [hkey, ih hrest, Ne.symm hkey]

end Said

namespace Tree

theorem flat?_keyed (entries : List (String × Tree)) :
    flat? (entries.map keyed) = some ([], entries.map keyed) := by
  induction entries with
  | nil => rfl
  | cons entry entries ih =>
      exact (flat?_own (by simp [tag])).2 ⟨_, ih, rfl⟩

theorem keysOf?_keyed (entries : List (String × Tree)) :
    keysOf? (entries.map keyed) = some (entries.map fun entry => .text entry.1) := by
  induction entries with
  | nil => rfl
  | cons entry entries ih => exact mapM_cons_eq_some.2 ⟨_, _, rfl, ih, rfl⟩

/-- The parts of such a mapping are its values, under their keys. -/
theorem parts?_keyed (entries : List (String × Tree)) :
    (Tree.mapping .map (entries.map keyed)).parts? =
      some ⟨.map (entries.map fun entry => .text entry.1), entries.map Prod.snd⟩ := by
  have hbrought : (Tree.mapping .map (entries.map keyed)).brought? = some (entries.map keyed) :=
    brought?_mapping.2 ⟨_, _, flat?_keyed entries, rfl⟩
  rw [parts?, valueParts?, hbrought, Option.bind_eq_bind, Option.bind_some, keysOf?_keyed,
    Option.bind_eq_bind, Option.bind_some, List.map_map]
  rfl

theorem isSome_datum?_keyed (entries : List (String × Tree)) :
    (Tree.mapping .map (entries.map keyed)).datum?.isSome ↔
      ∀ entry ∈ entries, entry.2.datum?.isSome := by
  rw [isSome_datum? rfl, parts?_keyed]
  simp only [Option.some.injEq, exists_eq_left', List.forall_mem_map]

end Tree

/-! ### Loading -/

/-- Texts that differ are put behind each other. -/
theorem putAfter_of_nodup {filled : List (Datum × Nat)} {keys : List String} (hkeys : keys.Nodup)
    (hnew : ∀ key ∈ keys, ∀ entry ∈ filled, sameKey entry.1 (.text key) = false)
    (numbers : List Nat) :
    putAfter filled ((keys.map Datum.text).zip numbers) =
      filled ++ (keys.map Datum.text).zip numbers := by
  induction keys generalizing filled numbers with
  | nil => simp [putAfter]
  | cons key keys ih =>
      cases numbers with
      | nil => simp [putAfter]
      | cons number numbers =>
          obtain ⟨hfirst, hrest⟩ := List.forall_mem_cons.1 hnew
          obtain ⟨hkey, hkeys⟩ := List.nodup_cons.1 hkeys
          have hput : putAfter filled (((key :: keys).map Datum.text).zip (number :: numbers)) =
              putAfter (putEntry (.text key) number filled) ((keys.map Datum.text).zip numbers) := rfl
          rw [hput, putEntry_of_fresh hfirst, ih hkeys, List.append_assoc]
          · rfl
          · intro key' hkey' entry hentry
            rcases List.mem_append.1 hentry with hentry | hentry
            · exact hrest key' hkey' entry hentry
            · obtain rfl := List.mem_singleton.1 hentry
              exact decide_eq_false fun heq => hkey (heq ▸ hkey')

/-- What is found under a key is the value of the node that was given to it. -/
theorem lookup_zip {l : Loaded} {entries : List (String × Tree)} {spots : List Spot}
    (htrees : spots.map Spot.tree = entries.map Prod.snd)
    (hvalues : ∀ s ∈ spots, s.tree.datum? = some (l.value s.number)) (key : String) :
    l.lookup ((entries.map fun entry => .text entry.1).zip (spots.map Spot.number)) key =
      said entries key := by
  induction entries generalizing spots with
  | nil => rfl
  | cons entry entries ih =>
      cases spots with
      | nil => cases htrees
      | cons s spots =>
          obtain ⟨htree, htrees⟩ := List.cons.inj htrees
          obtain ⟨hvalue, hvalues⟩ := List.forall_mem_cons.1 hvalues
          have hmore := ih htrees hvalues
          rw [Loaded.lookup, said] at hmore ⊢
          rw [List.map_cons, List.map_cons, List.zip_cons_cons, List.find?_cons, List.find?_cons]
          simp only [sameKey_text]
          by_cases hkey : entry.1 = key
          · simp [hkey, ← htree, hvalue]
          · simpa [hkey] using hmore

/-- **Such a text is loaded exactly if all its values can be**, and then what stands under a key is
the value under it. -/
theorem load_tells {text : String} {entries : List (String × Tree)} (h : Tells text entries) :
    Yields (load text) (∀ entry ∈ entries, entry.2.datum?.isSome) fun l =>
      ∃ found, l.entries? = some found ∧ ∀ key, l.lookup found key = said entries key := by
  obtain ⟨label, es, hlabel, hspells, hevents⟩ := h.spells
  obtain ⟨nodes, hgraph, hsize, hholds⟩ := ofEvents_mapping hspells hevents
  rw [hlabel] at hholds
  have hload : load text = Loaded.ofGraph ⟨nodes, some 0⟩ := by
    rw [load]
    simp only [h.allowed, if_true, hgraph]
    rfl
  rw [hload]
  refine (ofGraph_yields hholds hsize rfl).imp (Tree.isSome_datum?_keyed entries) ?_
  rintro l - ⟨hroot, hobjects, hbuilt⟩
  cases hbuilt with
  | scalar hcollection => cases hcollection
  | @whole _ parts spots _ hparts htrees hobject hwithin hbuilt =>
      obtain rfl := Option.some.inj ((Tree.parts?_keyed entries).symm.trans hparts)
      have hsmaller := Tree.sizeOfAll_parts hparts
      have htrees : spots.map Spot.tree = entries.map Prod.snd := htrees
      have hvalues : ∀ s ∈ spots, s.tree.datum? = some (l.value s.number) := by
        intro s hs
        have hmem : s.tree ∈ entries.map Prod.snd := htrees ▸ List.mem_map_of_mem hs
        have hle := Tree.size_le_of_mem hmem
        refine (hbuilt s hs).value_eq ?_
        simp only [Tree.size] at hsmaller hsize
        omega
      have hput : putAfter [] (((entries.map Prod.fst).map Datum.text).zip (spots.map Spot.number)) =
          ((entries.map Prod.fst).map Datum.text).zip (spots.map Spot.number) :=
        putAfter_of_nodup h.distinct (by simp) _
      rw [List.map_map] at hput
      refine ⟨_, ?_, lookup_zip htrees hvalues⟩
      rw [Loaded.entries?, hroot, Option.map_some, Loaded.object, hobject]
      exact congrArg some hput

/-! ### Mappings of scalars -/

/-- A key, and a scalar under it: whether it is open, and its text. -/
structure ScalarEntry where
  key : String
  isOpen : Bool
  text : String

namespace ScalarEntry

/-- The entry, with the tag that its scalar gets. -/
def entry (e : ScalarEntry) : String × Tree :=
  (e.key, .scalar (Collector.scalarTag .none e.isOpen e.text) e.text)

/-- The events of the entry. -/
def events (e : ScalarEntry) : List Event :=
  [.scalar .none false e.key, .scalar .none e.isOpen e.text]

end ScalarEntry

theorem spells_scalars (es : List ScalarEntry) :
    SpellsAll (((es.map ScalarEntry.entry).map keyed).flatMap fun entry => [entry.1, entry.2])
      (es.flatMap ScalarEntry.events) := by
  induction es with
  | nil => exact .nil
  | cons e es ih =>
      have hkey := @Spells.scalar .none false e.key rfl
      have hvalue := @Spells.scalar .none e.isOpen e.text rfl
      have hentry := SpellsAll.cons hkey (.cons hvalue ih)
      exact hentry

/-- A mapping of scalars is known by its events. -/
theorem tells_scalars {text : String} {es : List ScalarEntry}
    (hallowed : text.toList.all isAllowed = true)
    (hevents : (events (tokens text.toList)).items = documentOf
      (.mappingStart .none :: (es.flatMap ScalarEntry.events ++ [.mappingEnd])))
    (hdistinct : (es.map ScalarEntry.key).Nodup) : Tells text (es.map ScalarEntry.entry) where
  allowed := hallowed
  spells := ⟨.none, _, rfl, spells_scalars es, hevents⟩
  distinct := by
    rw [List.map_map]
    exact hdistinct

end EntryTemplates.Document
