/-
**The nodes of a tree.**

The nodes of a tree get numbers that follow each other, its root the first of them.  So each tree
covers a range of numbers of its own, and a change to nodes outside of that range is none to the tree.

Main definitions:

* `EntryTemplates.Document.Spot` — a tree with the number of its root;
* `EntryTemplates.Document.Holds` — the nodes of a tree are there;
* `EntryTemplates.Document.Spells` — the events that spell a tree.

Main results:

* `EntryTemplates.Document.Holds.congr` — nodes outside of its range are of no account to a tree;
* `EntryTemplates.Document.Collector.foldlM_spells` — **the events of a tree give its nodes**;
* `EntryTemplates.Document.ofEvents_mapping` — the nodes of a document that is a mapping.
-/

import EntryTemplates.Proofs.Document.Trees

set_option relaxedAutoImplicit false
set_option autoImplicit false

namespace EntryTemplates.Document

/-! ### Ranges of numbers -/

/-- A tree with the number of its root. -/
structure Spot where
  number : Nat
  tree : Tree

/-- The range of numbers of a tree. -/
def Spot.Covers (s : Spot) (m : Nat) : Prop := s.number ≤ m ∧ m < s.number + s.tree.size

/-- No number belongs to both trees. -/
def Spot.Apart (s s' : Spot) : Prop := ∀ m, s.Covers m → ¬ s'.Covers m

/-- Trees one after the other. -/
def spotsFrom (start : Nat) : List Tree → List Spot
  | [] => []
  | t :: ts => ⟨start, t⟩ :: spotsFrom (start + t.size) ts

/-- Entries one after the other. -/
def entriesFrom (start : Nat) : List (Tree × Tree) → List (Spot × Spot)
  | [] => []
  | (key, value) :: entries =>
      (⟨start, key⟩, ⟨start + key.size, value⟩) ::
        entriesFrom (start + key.size + value.size) entries

/-- The numbers of entries. -/
def entryNumbers (entries : List (Spot × Spot)) : List (Nat × Nat) :=
  entries.map fun entry => (entry.1.number, entry.2.number)

/-- The keys and values of entries. -/
def spotsOf (entries : List (Spot × Spot)) : List Spot :=
  entries.flatMap fun entry => [entry.1, entry.2]

section Ranges

variable {s s' : Spot} {start m : Nat} {trees : List Tree} {entries : List (Tree × Tree)}

theorem Spot.covers_number (s : Spot) : s.Covers s.number :=
  ⟨Nat.le_refl _, Nat.lt_add_of_pos_right s.tree.size_pos⟩

theorem Spot.Apart.symm (h : s.Apart s') : s'.Apart s := fun m hm hm' => h m hm' hm

instance : Std.Symm Spot.Apart := ⟨fun _ _ h => h.symm⟩

theorem spotsOf_entriesFrom (start : Nat) (entries : List (Tree × Tree)) :
    spotsOf (entriesFrom start entries) =
      spotsFrom start (entries.flatMap fun entry => [entry.1, entry.2]) := by
  induction entries generalizing start with
  | nil => rfl
  | cons entry entries ih =>
      rw [entriesFrom, spotsOf, List.flatMap_cons, ← spotsOf, ih, List.flatMap_cons]
      rfl

theorem sizeOfAll_flatMap (entries : List (Tree × Tree)) :
    Tree.sizeOfAll (entries.flatMap fun entry => [entry.1, entry.2]) =
      Tree.sizeOfEntries entries := by
  induction entries with
  | nil => rfl
  | cons entry entries ih =>
      simp only [List.flatMap_cons, Tree.sizeOfAll_append, ih, Tree.sizeOfAll, Tree.sizeOfEntries]
      omega

theorem bounds_of_mem_spotsFrom (h : s ∈ spotsFrom start trees) :
    start ≤ s.number ∧ s.number + s.tree.size ≤ start + Tree.sizeOfAll trees := by
  induction trees generalizing start with
  | nil => exact absurd h List.not_mem_nil
  | cons t trees ih =>
      rw [Tree.sizeOfAll]
      rcases List.mem_cons.1 h with rfl | h
      · exact ⟨Nat.le_refl _, by simp only; omega⟩
      · have := ih h
        omega

/-- **Trees one after the other have no number in common.** -/
theorem pairwise_spotsFrom (start : Nat) (trees : List Tree) :
    (spotsFrom start trees).Pairwise Spot.Apart := by
  induction trees generalizing start with
  | nil => exact .nil
  | cons t trees ih =>
      refine List.pairwise_cons.2 ⟨fun s hs m hm hm' => ?_, ih _⟩
      have hbounds := bounds_of_mem_spotsFrom hs
      simp only [Spot.Covers] at hm hm'
      omega

theorem mem_spotsOf {entries : List (Spot × Spot)} :
    s ∈ spotsOf entries ↔ ∃ entry ∈ entries, s = entry.1 ∨ s = entry.2 := by
  simp [spotsOf]

theorem bounds_of_mem_entriesFrom (h : s ∈ spotsOf (entriesFrom start entries)) :
    start ≤ s.number ∧ s.number + s.tree.size ≤ start + Tree.sizeOfEntries entries := by
  rw [spotsOf_entriesFrom] at h
  rw [← sizeOfAll_flatMap]
  exact bounds_of_mem_spotsFrom h

end Ranges

/-! ### The nodes of a tree -/

/-- The nodes of a tree stand in its range. -/
inductive Holds (node : Nat → Node) : Spot → Prop where
  | scalar {n : Nat} {tag : Tag} {text : String} (hnode : node n = ⟨tag, .scalar text⟩) :
      Holds node ⟨n, .scalar tag text⟩
  | sequence {n : Nat} {tag : Tag} {items : List Tree}
      (hnode : node n = ⟨tag, .sequence ((spotsFrom (n + 1) items).map Spot.number)⟩)
      (hitems : ∀ s ∈ spotsFrom (n + 1) items, Holds node s) :
      Holds node ⟨n, .sequence tag items⟩
  | mapping {n : Nat} {tag : Tag} {entries : List (Tree × Tree)}
      (hnode : node n = ⟨tag, .mapping (entryNumbers (entriesFrom (n + 1) entries))⟩)
      (hentries : ∀ s ∈ spotsOf (entriesFrom (n + 1) entries), Holds node s) :
      Holds node ⟨n, .mapping tag entries⟩

namespace Holds

variable {node node' : Nat → Node} {s : Spot} {n : Nat} {tag : Tag} {t : Tree}

theorem tag_eq (h : Holds node s) : (node s.number).tag = s.tree.tag := by
  cases h with
  | scalar hnode => rw [hnode]; rfl
  | sequence hnode => rw [hnode]; rfl
  | mapping hnode => rw [hnode]; rfl

/-- **Nodes outside of its range are of no account to a tree.** -/
theorem congr (h : Holds node s) (hsame : ∀ m, s.Covers m → node' m = node m) :
    Holds node' s := by
  induction h with
  | @scalar n tag text hnode =>
      exact .scalar ((hsame n (Spot.covers_number _)).trans hnode)
  | @sequence n tag items hnode hitems ih =>
      refine .sequence ((hsame n (Spot.covers_number _)).trans hnode) fun s hs => ih s hs ?_
      intro m hm
      have hbounds := bounds_of_mem_spotsFrom hs
      refine hsame m ⟨?_, ?_⟩
      · exact Nat.le_trans (Nat.le_of_succ_le hbounds.1) hm.1
      · simp only [Tree.size]
        have := hm.2
        omega
  | @mapping n tag entries hnode hentries ih =>
      refine .mapping ((hsame n (Spot.covers_number _)).trans hnode) fun s hs => ih s hs ?_
      intro m hm
      have hbounds := bounds_of_mem_entriesFrom hs
      refine hsame m ⟨?_, ?_⟩
      · exact Nat.le_trans (Nat.le_of_succ_le hbounds.1) hm.1
      · simp only [Tree.size]
        have := hm.2
        omega

end Holds

/-! ### From events to nodes -/

mutual

/-- The events that spell a tree; none of its nodes has an anchor, and none is an alias. -/
inductive Spells : Tree → List Event → Prop where
  | scalar {label : Label} {isOpen : Bool} {text : String} (hanchor : label.anchor = none) :
      Spells (.scalar (Collector.scalarTag label isOpen text) text) [.scalar label isOpen text]
  | sequence {label : Label} {items : List Tree} {es : List Event} (hanchor : label.anchor = none)
      (hitems : SpellsAll items es) :
      Spells (.sequence (Collector.collectionTag label .seq) items)
        (.sequenceStart label :: (es ++ [.sequenceEnd]))
  | mapping {label : Label} {entries : List (Tree × Tree)} {es : List Event}
      (hanchor : label.anchor = none)
      (hentries : SpellsAll (entries.flatMap fun entry => [entry.1, entry.2]) es) :
      Spells (.mapping (Collector.collectionTag label .map) entries)
        (.mappingStart label :: (es ++ [.mappingEnd]))

/-- The events that spell several trees. -/
inductive SpellsAll : List Tree → List Event → Prop where
  | nil : SpellsAll [] []
  | cons {t : Tree} {ts : List Tree} {es es' : List Event} (hfirst : Spells t es)
      (hrest : SpellsAll ts es') : SpellsAll (t :: ts) (es ++ es')

end

/-- A node of several. -/
def nodeOf (nodes : Array Node) (m : Nat) : Node := nodes[m]?.getD default

/-- The nodes of some trees are added behind others. -/
structure Grown (old : Array Node) (trees : List Tree) (new : Array Node) : Prop where
  size : new.size = old.size + Tree.sizeOfAll trees
  same : ∀ m, m < old.size → nodeOf new m = nodeOf old m
  holds : ∀ s ∈ spotsFrom old.size trees, Holds (nodeOf new) s

theorem entryNumbers_entriesFrom (start : Nat) (entries : List (Tree × Tree)) :
    entryNumbers (entriesFrom start entries) = Collector.pairUp
      ((spotsFrom start (entries.flatMap fun entry => [entry.1, entry.2])).map Spot.number) := by
  induction entries generalizing start with
  | nil => rfl
  | cons entry entries ih =>
      obtain ⟨key, value⟩ := entry
      simp only [entriesFrom, entryNumbers, List.map_cons, List.flatMap_cons, List.cons_append,
        List.nil_append, spotsFrom, Collector.pairUp]
      rw [← ih]
      rfl

namespace Collector

/-- The state with finished nodes put into the innermost open collection. -/
def placeAll (c : Collector) (spots : List Spot) : Collector :=
  spots.foldl (fun c s => c.place s.number) c

theorem placeAll_open (c : Collector) (top : OpenNode) (rest : List OpenNode)
    (spots : List Spot) :
    ({ c with path := top :: rest } : Collector).placeAll spots =
      { c with path :=
          { top with items := (spots.map Spot.number).reverse ++ top.items } :: rest } := by
  induction spots generalizing top with
  | nil => rfl
  | cons s spots ih =>
      rw [placeAll, List.foldl_cons, ← placeAll, place, ih]
      simp

theorem nodeOf_modify (nodes : Array Node) (n m : Nat) (f : Node → Node) (hn : n < nodes.size) :
    nodeOf (nodes.modify n f) m = if n = m then f (nodeOf nodes m) else nodeOf nodes m := by
  rw [nodeOf, nodeOf, Array.getElem?_modify]
  split
  · rename_i h
    subst h
    simp [hn]
  · rfl

theorem nodeOf_push (nodes : Array Node) (x : Node) (m : Nat) (hm : m < nodes.size) :
    nodeOf (nodes.push x) m = nodeOf nodes m := by
  rw [nodeOf, nodeOf, Array.getElem?_push_lt hm, Array.getElem?_eq_getElem hm]

theorem place_nodes (c : Collector) (number : Nat) : (c.place number).nodes = c.nodes := by
  rw [place]
  split <;> rfl

theorem place_withNodes (c : Collector) (number : Nat) (new : Array Node) :
    ({ c.place number with nodes := new } : Collector) =
      ({ c with nodes := new } : Collector).place number := by
  rw [place, place]
  cases c.path <;> rfl

/-- The content of a collection that is closed. -/
def filled (numbers : List Nat) (n : Node) : Node :=
  match n.content with
  | .mapping _ => { n with content := .mapping (pairUp numbers) }
  | _ => { n with content := .sequence numbers }

theorem close_open (c : Collector) (number : Nat) (numbers : List Nat) :
    ({ c with path := ⟨number, numbers.reverse⟩ :: c.path } : Collector).close =
      ({ c with nodes := c.nodes.modify number (filled numbers) } : Collector).place number := by
  rw [close]
  simp only [List.reverse_reverse]
  rfl

end Collector

namespace Grown

variable {old middle new : Array Node} {t : Tree} {ts : List Tree} {n : Node} {numbers : List Nat}

theorem nil (old : Array Node) : Grown old [] old :=
  ⟨rfl, fun _ _ => rfl, fun _ h => absurd h List.not_mem_nil⟩

theorem cons (h : Grown old [t] middle) (h' : Grown middle ts new) : Grown old (t :: ts) new := by
  have hsize : middle.size = old.size + t.size := by
    rw [h.size, Tree.sizeOfAll, Tree.sizeOfAll, Nat.add_zero]
  refine ⟨?_, fun m hm => ?_, fun s hs => ?_⟩
  · rw [h'.size, hsize, Tree.sizeOfAll, Nat.add_assoc]
  · rw [h'.same m (by omega), h.same m hm]
  · rcases List.mem_cons.1 hs with rfl | hs
    · refine (h.holds _ List.mem_cons_self).congr fun m hm => h'.same m ?_
      have := hm.2
      simp only at this
      omega
    · rw [← hsize] at hs
      exact h'.holds s hs

/-- A collection is closed: its own node gets its content. -/
theorem close (h : Grown (old.push n) ts new) (ht : t.size = Tree.sizeOfAll ts + 1)
    (hholds : (∀ s ∈ spotsFrom (old.size + 1) ts,
        Holds (nodeOf (new.modify old.size (Collector.filled numbers))) s) →
      nodeOf (new.modify old.size (Collector.filled numbers)) old.size =
        Collector.filled numbers n →
      Holds (nodeOf (new.modify old.size (Collector.filled numbers))) ⟨old.size, t⟩) :
    Grown old [t] (new.modify old.size (Collector.filled numbers)) := by
  have hpush : (old.push n).size = old.size + 1 := Array.size_push n
  have hnew : new.size = old.size + 1 + Tree.sizeOfAll ts := by rw [h.size, hpush]
  have hmodify (m : Nat) := Collector.nodeOf_modify new old.size m (Collector.filled numbers)
    (by omega)
  have hown : nodeOf new old.size = n := by
    rw [h.same old.size (by omega), nodeOf, Array.getElem?_push_size]
    rfl
  refine ⟨?_, fun m hm => ?_, fun s hs => ?_⟩
  · rw [Array.size_modify, hnew, Tree.sizeOfAll, Tree.sizeOfAll, ht]
    omega
  · rw [hmodify, if_neg (by omega), h.same m (by omega), Collector.nodeOf_push _ _ _ hm]
  · obtain rfl : s = ⟨old.size, t⟩ := List.mem_singleton.1 hs
    refine hholds (fun s hs => ?_) (by rw [hmodify, if_pos rfl, hown])
    rw [← hpush] at hs
    refine (h.holds s hs).congr fun m hm => ?_
    have := (bounds_of_mem_spotsFrom hs).1
    rw [hmodify, if_neg (by have := hm.1; omega)]

end Grown

namespace Collector

/-- What the events of a tree do: its nodes are added, and its root is put into the innermost open
collection. -/
def Collects (t : Tree) (es : List Event) : Prop :=
  ∀ c : Collector, ∃ new, Grown c.nodes [t] new ∧
    es.foldlM step c = .ok (({ c with nodes := new } : Collector).place c.nodes.size)

theorem foldlM_spellsAll {trees : List Tree}
    (ih : ∀ t ∈ trees, ∀ es, Spells t es → Collects t es) {es : List Event}
    (h : SpellsAll trees es) (c : Collector) :
    ∃ new, Grown c.nodes trees new ∧ es.foldlM step c =
      .ok (({ c with nodes := new } : Collector).placeAll (spotsFrom c.nodes.size trees)) := by
  induction trees generalizing es c with
  | nil =>
      cases h
      exact ⟨c.nodes, .nil _, rfl⟩
  | cons t trees ihs =>
      obtain ⟨hfirst, hrest⟩ := List.forall_mem_cons.1 ih
      cases h with
      | @cons _ _ es es' ht hts =>
          obtain ⟨middle, hmiddle, hstep⟩ := hfirst es ht c
          obtain ⟨new, hnew, hsteps⟩ :=
            ihs hrest hts (({ c with nodes := middle } : Collector).place c.nodes.size)
          have hsize : middle.size = c.nodes.size + t.size := by
            rw [hmiddle.size, Tree.sizeOfAll, Tree.sizeOfAll, Nat.add_zero]
          rw [place_nodes] at hnew
          refine ⟨new, hmiddle.cons hnew, ?_⟩
          rw [List.foldlM_append, hstep]
          refine hsteps.trans ?_
          rw [place_nodes, place_withNodes, hsize]
          rfl

/-- The state in which a collection with the node `n` is open and empty. -/
def opened (c : Collector) (n : Node) : Collector :=
  { c with nodes := c.nodes.push n, path := ⟨c.nodes.size, []⟩ :: c.path }

/-- A collection that is open gets its nodes, and is closed. -/
theorem foldlM_opened {t : Tree} {n : Node} {kids : List Tree} {es : List Event} {stop : Event}
    (hstop : ∀ c, step c stop = .ok c.close)
    (hkids : ∀ t ∈ kids, ∀ es, Spells t es → Collects t es) (hspells : SpellsAll kids es)
    (hsize : t.size = Tree.sizeOfAll kids + 1)
    (hholds : ∀ number node, (∀ s ∈ spotsFrom (number + 1) kids, Holds node s) →
      node number = filled ((spotsFrom (number + 1) kids).map Spot.number) n →
      Holds node ⟨number, t⟩) (c : Collector) :
    ∃ new, Grown c.nodes [t] new ∧ (es ++ [stop]).foldlM step (c.opened n) =
      .ok (({ c with nodes := new } : Collector).place c.nodes.size) := by
  obtain ⟨new, hnew, hsteps⟩ := foldlM_spellsAll hkids hspells (c.opened n)
  refine ⟨_, Grown.close hnew hsize fun hkids hown => hholds _ _ hkids hown, ?_⟩
  have hpush : (c.opened n).nodes.size = c.nodes.size + 1 := Array.size_push n
  have hplaced := placeAll_open { c with nodes := new } ⟨c.nodes.size, []⟩ c.path
    (spotsFrom (c.nodes.size + 1) kids)
  rw [List.append_nil] at hplaced
  have hclose := close_open { c with nodes := new } c.nodes.size
    ((spotsFrom (c.nodes.size + 1) kids).map Spot.number)
  rw [List.foldlM_append, hsteps, hpush]
  simp only [bind, Except.bind, List.foldlM_cons, List.foldlM_nil, hstop, pure, Except.pure]
  rw [← hclose, ← hplaced]
  rfl

theorem size_mapping (tag : Tag) (entries : List (Tree × Tree)) :
    (Tree.mapping tag entries).size =
      Tree.sizeOfAll (entries.flatMap fun entry => [entry.1, entry.2]) + 1 := by
  rw [sizeOfAll_flatMap, Tree.size]

theorem holds_mapping {tag : Tag} {entries : List (Tree × Tree)} (number : Nat)
    (node : Nat → Node)
    (hkids : ∀ s ∈ spotsFrom (number + 1) (entries.flatMap fun entry => [entry.1, entry.2]),
      Holds node s)
    (hown : node number = filled ((spotsFrom (number + 1)
      (entries.flatMap fun entry => [entry.1, entry.2])).map Spot.number) ⟨tag, .mapping []⟩) :
    Holds node ⟨number, .mapping tag entries⟩ := by
  refine .mapping ?_ (by rwa [spotsOf_entriesFrom])
  rw [hown, entryNumbers_entriesFrom]
  rfl

/-- **The events of a tree give its nodes.** -/
theorem foldlM_spells {t : Tree} {es : List Event} (h : Spells t es) : Collects t es := by
  induction hsize : t.size using Nat.strongRecOn generalizing t es with
  | ind n ih =>
      subst hsize
      intro c
      cases h with
      | @scalar label isOpen text hanchor =>
          refine ⟨c.nodes.push ⟨scalarTag label isOpen text, .scalar text⟩, ⟨?_, ?_, ?_⟩, ?_⟩
          · simp [Tree.sizeOfAll, Tree.size]
          · exact fun m hm => nodeOf_push _ _ _ hm
          · intro s hs
            obtain rfl := List.mem_singleton.1 hs
            refine .scalar ?_
            rw [nodeOf, Array.getElem?_push_size]
            rfl
          · simp [List.foldlM_cons, step, add, hanchor, bind, Except.bind, pure, Except.pure]
      | @sequence label items es hanchor hitems =>
          have hmore : ∀ t ∈ items, ∀ es, Spells t es → Collects t es := fun t ht es hspells =>
            ih t.size (Nat.lt_succ_of_le (Tree.size_le_of_mem ht)) hspells rfl
          have hstart : step c (.sequenceStart label) =
              .ok (c.opened ⟨collectionTag label .seq, .sequence []⟩) := by
            simp [step, open_, add, hanchor, opened, bind, Except.bind, pure, Except.pure]
          rw [List.foldlM_cons, hstart]
          exact foldlM_opened (fun _ => rfl) hmore hitems rfl
            (fun _ _ hitems hown => .sequence hown hitems) c
      | @mapping label entries es hanchor hentries =>
          have hmore : ∀ t ∈ entries.flatMap fun entry => [entry.1, entry.2], ∀ es,
              Spells t es → Collects t es := fun t ht es hspells => by
            have hle := Tree.size_le_of_mem ht
            rw [sizeOfAll_flatMap] at hle
            exact ih t.size (Nat.lt_succ_of_le hle) hspells rfl
          have hstart : step c (.mappingStart label) =
              .ok (c.opened ⟨collectionTag label .map, .mapping []⟩) := by
            simp [step, open_, add, hanchor, opened, bind, Except.bind, pure, Except.pure]
          rw [List.foldlM_cons, hstart]
          exact foldlM_opened (fun _ => rfl) hmore hentries (size_mapping _ _) holds_mapping c

end Collector

/-! ### Documents -/

/-- The events of a document around those of its root. -/
def documentOf (es : List Event) : List Event :=
  [.streamStart, .documentStart] ++ es ++ [.documentEnd, .streamEnd]

/-- **The nodes of a document that is a mapping**; the mapping itself may have an anchor. -/
theorem ofEvents_mapping {label : Label} {entries : List (Tree × Tree)} {es : List Event}
    (hentries : SpellsAll (entries.flatMap fun entry => [entry.1, entry.2]) es)
    {events : Feed Event} (hevents : events.items =
      documentOf (.mappingStart label :: (es ++ [.mappingEnd]))) :
    ∃ nodes, Graph.ofEvents events = .ok ⟨nodes, some 0⟩ ∧
      nodes.size = Tree.sizeOfEntries entries + 1 ∧
      Holds (nodeOf nodes) ⟨0, .mapping (Collector.collectionTag label .map) entries⟩ := by
  obtain ⟨anchors, hstart⟩ : ∃ anchors, Collector.step .start (.mappingStart label) =
      .ok (({ Collector.start with anchors } : Collector).opened
        ⟨Collector.collectionTag label .map, .mapping []⟩) := by
    cases hanchor : label.anchor with
    | none => exact ⟨[], by simp [Collector.step, Collector.open_, Collector.add, hanchor]; rfl⟩
    | some name =>
        exact ⟨[(name, 0)], by simp [Collector.step, Collector.open_, Collector.add, hanchor]; rfl⟩
  have hstop : ∀ c, Collector.step c .mappingEnd = .ok c.close := fun _ => rfl
  obtain ⟨nodes, hnodes, hsteps⟩ := Collector.foldlM_opened hstop
    (fun _ _ _ => Collector.foldlM_spells) hentries (Collector.size_mapping _ _)
    Collector.holds_mapping { Collector.start with anchors }
  refine ⟨nodes, ?_, ?_, hnodes.holds _ List.mem_cons_self⟩
  · have hall : events.items.foldlM Collector.step .start = .ok
        { nodes, root := some 0, anchors, path := [], ended := true } := by
      have hroot : (Event.mappingStart label :: (es ++ [.mappingEnd])).foldlM Collector.step .start =
          .ok { nodes, root := some 0, anchors, path := [], ended := false } := by
        rw [List.foldlM_cons, hstart]
        exact hsteps
      have hbefore : [Event.streamStart, .documentStart].foldlM Collector.step .start =
          .ok Collector.start := rfl
      rw [hevents, documentOf, List.foldlM_append, List.foldlM_append, hbefore]
      simp only [bind, Except.bind, hroot]
      rfl
    have hlast : events.items.getLast? = some .streamEnd := by
      rw [hevents, documentOf, List.getLast?_append]
      rfl
    rw [Graph.ofEvents, hall]
    simp [hlast, bind, Except.bind, pure, Except.pure]
  · rw [hnodes.size]
    simp [Tree.sizeOfAll, Tree.size, Collector.start]

end EntryTemplates.Document
