/-
**Resolving merge keys.**

A merge key is taken out of its mapping, and the entries of the mapping that it names are put before
the others, with their own merge keys resolved first.  Where a document is a tree, no mapping is named
twice, and what is resolved in one place changes nothing in another.

Main definitions:

* `EntryTemplates.Document.Yields` — how a computation ends that may fail;
* `EntryTemplates.Document.Placed` — trees that stand apart from each other;
* `EntryTemplates.Document.Builder.Moved` — trees that have come from some region, with nothing else
  changed.

Main results:

* `EntryTemplates.Document.Builder.flattenFrom_yields` — **merge keys are resolved as they are in the
  tree**.
-/

import EntryTemplates.Proofs.Document.TreeNodes

set_option relaxedAutoImplicit false
set_option autoImplicit false

namespace EntryTemplates.Document

/-! ### Computations that may fail -/

/-- The computation succeeds exactly if `p` holds, and then its result is as `post` says. -/
def Yields {α : Type} (x : Except Failure α) (p : Prop) (post : α → Prop) : Prop :=
  match x with
  | .ok a => p ∧ post a
  | .error _ => ¬ p

namespace Yields

variable {α β : Type} {x : Except Failure α} {f : α → Except Failure β} {p q r : Prop}
  {post : α → Prop} {post' : β → Prop} {a : α}

theorem ok (hp : p) (h : post a) : Yields (.ok a) p post := ⟨hp, h⟩

theorem noValue (hp : ¬ p) : Yields (Builder.noValue : Except Failure α) p post := hp

/-- One computation after another. -/
theorem bind (hx : Yields x p post) (hr : r ↔ p ∧ q)
    (hf : ∀ a, p → post a → Yields (f a) q post') : Yields (x >>= f) r post' := by
  cases x with
  | error e => exact fun h => hx (hr.1 h).1
  | ok a =>
      have hnext := hf a hx.1 hx.2
      change Yields (f a) r post'
      cases hfa : f a with
      | error e =>
          rw [hfa] at hnext
          exact fun h => hnext (hr.1 h).2
      | ok b =>
          rw [hfa] at hnext
          exact ⟨hr.2 ⟨hx.1, hnext.1⟩, hnext.2⟩

/-- What is made of the result of a computation. -/
theorem map {g : α → β} (hx : Yields x p post) (h : ∀ a, p → post a → post' (g a)) :
    Yields (x.bind fun a => .ok (g a)) p post' := by
  cases x with
  | error e => exact hx
  | ok a => exact ⟨hx.1, h a hx.1 hx.2⟩

theorem imp (hx : Yields x p post) (hpq : p ↔ q) {post' : α → Prop}
    (hpost : ∀ a, p → post a → post' a) : Yields x q post' := by
  cases x with
  | error e => exact fun h => hx (hpq.2 h)
  | ok a => exact ⟨hpq.1 hx.1, hpost a hx.1 hx.2⟩

end Yields

/-! ### Trees apart from each other -/

/-- The number belongs to one of the trees. -/
def Covered (spots : List Spot) (m : Nat) : Prop := ∃ s ∈ spots, s.Covers m

/-- The trees are there, and have no number in common. -/
structure Placed (node : Nat → Node) (spots : List Spot) : Prop where
  holds : ∀ s ∈ spots, Holds node s
  apart : spots.Pairwise Spot.Apart

/-- The trees of entries. -/
def treesOf (entries : List (Spot × Spot)) : List (Tree × Tree) :=
  entries.map fun entry => (entry.1.tree, entry.2.tree)

@[simp] theorem treesOf_nil : treesOf [] = [] := rfl

@[simp] theorem treesOf_cons (entry : Spot × Spot) (entries : List (Spot × Spot)) :
    treesOf (entry :: entries) = (entry.1.tree, entry.2.tree) :: treesOf entries := rfl

@[simp] theorem treesOf_append (entries entries' : List (Spot × Spot)) :
    treesOf (entries ++ entries') = treesOf entries ++ treesOf entries' := List.map_append

@[simp] theorem treesOf_entriesFrom (start : Nat) (entries : List (Tree × Tree)) :
    treesOf (entriesFrom start entries) = entries := by
  induction entries generalizing start with
  | nil => rfl
  | cons entry entries ih =>
      obtain ⟨key, value⟩ := entry
      rw [entriesFrom, treesOf_cons, ih]

theorem map_tree_spotsFrom (start : Nat) (trees : List Tree) :
    (spotsFrom start trees).map Spot.tree = trees := by
  induction trees generalizing start with
  | nil => rfl
  | cons t trees ih => rw [spotsFrom, List.map_cons, ih]

@[simp] theorem spotsOf_nil : spotsOf [] = [] := rfl

@[simp] theorem spotsOf_cons (entry : Spot × Spot) (entries : List (Spot × Spot)) :
    spotsOf (entry :: entries) = entry.1 :: entry.2 :: spotsOf entries := rfl

@[simp] theorem spotsOf_append (entries entries' : List (Spot × Spot)) :
    spotsOf (entries ++ entries') = spotsOf entries ++ spotsOf entries' := List.flatMap_append

@[simp] theorem entryNumbers_nil : entryNumbers [] = [] := rfl

@[simp] theorem entryNumbers_cons (entry : Spot × Spot) (entries : List (Spot × Spot)) :
    entryNumbers (entry :: entries) =
      (entry.1.number, entry.2.number) :: entryNumbers entries := rfl

@[simp] theorem entryNumbers_append (entries entries' : List (Spot × Spot)) :
    entryNumbers (entries ++ entries') = entryNumbers entries ++ entryNumbers entries' :=
  List.map_append

@[simp] theorem covered_nil {m : Nat} : ¬ Covered [] m := by
  simp [Covered]

@[simp] theorem covered_cons {s : Spot} {spots : List Spot} {m : Nat} :
    Covered (s :: spots) m ↔ s.Covers m ∨ Covered spots m := by
  simp [Covered]

@[simp] theorem covered_append {spots spots' : List Spot} {m : Nat} :
    Covered (spots ++ spots') m ↔ Covered spots m ∨ Covered spots' m := by
  simp [Covered, or_and_right, exists_or]

namespace Placed

variable {node node' : Nat → Node} {s : Spot} {spots spots' : List Spot}

theorem congr (h : Placed node spots) (hsame : ∀ m, Covered spots m → node' m = node m) :
    Placed node' spots :=
  ⟨fun s hs => (h.holds s hs).congr fun m hm => hsame m ⟨s, hs, hm⟩, h.apart⟩

theorem append (h : Placed node spots) (h' : Placed node spots')
    (hapart : ∀ m, Covered spots m → ¬ Covered spots' m) : Placed node (spots ++ spots') := by
  refine ⟨fun s hs => ?_, List.pairwise_append.2 ⟨h.apart, h'.apart, fun s hs s' hs' m hm hm' => ?_⟩⟩
  · rcases List.mem_append.1 hs with hs | hs
    · exact h.holds s hs
    · exact h'.holds s hs
  · exact hapart m ⟨s, hs, hm⟩ ⟨s', hs', hm'⟩

theorem tail (h : Placed node (s :: spots)) : Placed node spots :=
  ⟨fun s' hs' => h.holds s' (List.mem_cons_of_mem _ hs'), (List.pairwise_cons.1 h.apart).2⟩

theorem head (h : Placed node (s :: spots)) : Holds node s := h.holds s List.mem_cons_self

theorem split (h : Placed node (spots ++ spots')) : Placed node spots ∧ Placed node spots' ∧
    ∀ m, Covered spots m → ¬ Covered spots' m := by
  obtain ⟨hapart, hapart', hbetween⟩ := List.pairwise_append.1 h.apart
  refine ⟨⟨fun s hs => h.holds s (List.mem_append_left _ hs), hapart⟩,
    ⟨fun s hs => h.holds s (List.mem_append_right _ hs), hapart'⟩, ?_⟩
  rintro m ⟨s, hs, hm⟩ ⟨s', hs', hm'⟩
  exact hbetween s hs s' hs' m hm hm'

/-- The first tree is apart from all the others. -/
theorem not_covered (h : Placed node (s :: spots)) {m : Nat} (hm : s.Covers m) :
    ¬ Covered spots m := by
  rintro ⟨s', hs', hm'⟩
  exact (List.pairwise_cons.1 h.apart).1 s' hs' m hm hm'

end Placed

theorem Holds.node_mapping {node : Nat → Node} {n : Nat} {tag : Tag}
    {entries : List (Tree × Tree)} (h : Holds node ⟨n, .mapping tag entries⟩) :
    node n = ⟨tag, .mapping (entryNumbers (entriesFrom (n + 1) entries))⟩ := by
  cases h with
  | mapping hnode _ => exact hnode

/-- The entries of a mapping stand apart from each other, and below it. -/
theorem Holds.placed_entries {node : Nat → Node} {n : Nat} {tag : Tag}
    {entries : List (Tree × Tree)} (h : Holds node ⟨n, .mapping tag entries⟩) :
    Placed node (spotsOf (entriesFrom (n + 1) entries)) ∧
      (∀ m, Covered (spotsOf (entriesFrom (n + 1) entries)) m →
        n < m ∧ (⟨n, .mapping tag entries⟩ : Spot).Covers m) := by
  cases h with
  | mapping hnode hentries =>
      refine ⟨⟨hentries, ?_⟩, ?_⟩
      · rw [spotsOf_entriesFrom]
        exact pairwise_spotsFrom _ _
      · rintro m ⟨s, hs, hm⟩
        have hbounds := bounds_of_mem_entriesFrom hs
        simp only [Spot.Covers, Tree.size] at hm ⊢
        omega

/-- The items of a sequence stand apart from each other, and below it. -/
theorem Holds.placed_items {node : Nat → Node} {n : Nat} {tag : Tag} {items : List Tree}
    (h : Holds node ⟨n, .sequence tag items⟩) :
    Placed node (spotsFrom (n + 1) items) ∧
      (∀ m, Covered (spotsFrom (n + 1) items) m →
        n < m ∧ (⟨n, .sequence tag items⟩ : Spot).Covers m) := by
  cases h with
  | sequence hnode hitems =>
      refine ⟨⟨hitems, pairwise_spotsFrom _ _⟩, ?_⟩
      rintro m ⟨s, hs, hm⟩
      have hbounds := bounds_of_mem_spotsFrom hs
      simp only [Spot.Covers, Tree.size] at hm ⊢
      omega

/-- A change of the tag of its root changes just that. -/
theorem Holds.withTag {node node' : Nat → Node} {s : Spot} {tag : Tag} (h : Holds node s)
    (hroot : node' s.number = { node s.number with tag })
    (hsame : ∀ m, m ≠ s.number → node' m = node m) :
    Holds node' ⟨s.number, s.tree.withTag tag⟩ := by
  cases h with
  | @scalar n own text hnode =>
      exact .scalar (hroot.trans (by rw [hnode]))
  | @sequence n own items hnode hitems =>
      refine .sequence (hroot.trans (by rw [hnode])) fun s hs => (hitems s hs).congr fun m hm => ?_
      have hbounds := (bounds_of_mem_spotsFrom hs).1
      exact hsame m (Nat.ne_of_gt (Nat.lt_of_lt_of_le hbounds hm.1))
  | @mapping n own entries hnode hentries =>
      refine .mapping (hroot.trans (by rw [hnode])) fun s hs => (hentries s hs).congr fun m hm => ?_
      have hbounds := (bounds_of_mem_entriesFrom hs).1
      exact hsame m (Nat.ne_of_gt (Nat.lt_of_lt_of_le hbounds hm.1))

/-! ### One change after another -/

namespace Builder

variable {b b' : Builder} {number m : Nat} {es es' : List (Nat × Nat)}

theorem lt_size_of_tag (h : (b.node number).tag ≠ .null) : number < b.nodes.size := by
  refine Nat.lt_of_not_le fun hle => h ?_
  rw [node, Array.getElem?_eq_none hle]
  rfl

theorem lt_size_of_mapping (h : (b.node number).content = .mapping es) :
    number < b.nodes.size := by
  refine Nat.lt_of_not_le fun hle => ?_
  rw [node, Array.getElem?_eq_none hle] at h
  cases h

theorem entriesOf_eq (h : (b.node number).content = .mapping es) : b.entriesOf number = es := by
  rw [entriesOf, h]

theorem node_setEntries (h : (b.node number).content = .mapping es') :
    (b.setEntries number es).node m =
      if number = m then ⟨(b.node m).tag, .mapping es⟩ else b.node m :=
  Collector.nodeOf_modify _ _ _ _ (lt_size_of_mapping h)

theorem setEntries_setEntries (b : Builder) (number : Nat) (es es' : List (Nat × Nat)) :
    (b.setEntries number es).setEntries number es' = b.setEntries number es' := by
  have hnodes : (b.nodes.modify number fun n => { n with content := .mapping es }).modify number
      (fun n => { n with content := .mapping es' }) =
        b.nodes.modify number fun n => { n with content := .mapping es' } := by
    refine Array.ext_getElem? fun m => ?_
    simp only [Array.getElem?_modify]
    split
    · cases b.nodes[m]? <;> rfl
    · rfl
  rw [setEntries, setEntries, hnodes, setEntries]

/-- The state with a key that marks a text made a text. -/
def renamed (b : Builder) (key : Nat) : Builder :=
  if (b.node key).tag = .value then
    { b with nodes := b.nodes.modify key fun n => { n with tag := .str } }
  else b

theorem node_renamed (b : Builder) (key m : Nat) : (b.renamed key).node m =
    if key = m ∧ (b.node key).tag = .value then { b.node m with tag := .str } else b.node m := by
  rw [renamed]
  split
  · rename_i htag
    have hmodify := Collector.nodeOf_modify b.nodes key m (fun n => { n with tag := .str })
      (lt_size_of_tag (by simp [htag]))
    simp only [htag, and_true]
    exact hmodify
  · rename_i htag
    rw [if_neg fun h => htag h.2]

theorem renamed_same (b : Builder) (key : Nat) : (b.renamed key).objects = b.objects ∧
    (b.renamed key).queue = b.queue ∧ (b.renamed key).nodes.size = b.nodes.size := by
  rw [renamed]
  split
  · exact ⟨rfl, rfl, Array.size_modify⟩
  · exact ⟨rfl, rfl, rfl⟩

/-- Trees have come from a region, and nothing outside of it has changed. -/
structure Moved (b : Builder) (region : Nat → Prop) (spots : List Spot) (b' : Builder) : Prop where
  placed : Placed b'.node spots
  within : ∀ m, Covered spots m → region m
  same : ∀ m, ¬ region m → b'.node m = b.node m
  size : b'.nodes.size = b.nodes.size
  objects : b'.objects = b.objects
  queue : b'.queue = b.queue

namespace Moved

variable {b₁ b₂ : Builder} {region region' : Nat → Prop} {spots spots' : List Spot} {s : Spot}

theorem nothing (b : Builder) (region : Nat → Prop) : Moved b region [] b :=
  ⟨⟨fun _ h => absurd h List.not_mem_nil, .nil⟩, fun _ h => absurd h covered_nil, fun _ _ => rfl,
    rfl, rfl, rfl⟩

/-- A mapping whose entries are given to it again. -/
theorem again (hnode : (b.node number).content = .mapping es) (region : Nat → Prop) :
    Moved (b.setEntries number es) region [] b where
  placed := ⟨fun _ h => absurd h List.not_mem_nil, .nil⟩
  within := fun _ h => absurd h covered_nil
  same := fun m _ => by
    rw [node_setEntries hnode]
    split
    · rename_i heq
      subst heq
      rw [← hnode]
    · rfl
  size := Array.size_modify.symm
  objects := rfl
  queue := rfl

/-- The mapping whose entries have changed is taken into the region. -/
theorem below (h : Moved (b.setEntries number es) region spots b')
    (hmapping : ∃ es, (b.node number).content = .mapping es) :
    Moved b (fun m => m = number ∨ region m) spots b' := by
  obtain ⟨es₀, hmapping⟩ := hmapping
  refine ⟨h.placed, fun m hm => .inr (h.within m hm), fun m hm => ?_, ?_, h.objects, h.queue⟩
  · rw [h.same m fun hm' => hm (.inr hm'), node_setEntries hmapping,
      if_neg fun heq => hm (.inl heq.symm)]
  · exact h.size.trans Array.size_modify

theorem mono (h : Moved b region spots b') (hsub : ∀ m, region m → region' m) :
    Moved b region' spots b' :=
  { h with
    within := fun m hm => hsub m (h.within m hm)
    same := fun m hm => h.same m (mt (hsub m) hm) }

theorem perm (h : Moved b region spots b') (hperm : spots.Perm spots') :
    Moved b region spots' b' :=
  { h with
    placed := ⟨fun s hs => h.placed.holds s (hperm.mem_iff.2 hs),
      hperm.pairwise h.placed.apart fun h => h.symm⟩
    within := fun m ⟨s, hs, hm⟩ => h.within m ⟨s, hperm.mem_iff.2 hs, hm⟩ }

/-- Regions without a number in common do not disturb each other. -/
theorem beside (h : Moved b region spots b₁) (h' : Moved b₁ region' spots' b₂)
    (hapart : ∀ m, region m → ¬ region' m) :
    Moved b (fun m => region m ∨ region' m) (spots ++ spots') b₂ where
  placed := (h.placed.congr fun m hm => h'.same m (hapart m (h.within m hm))).append h'.placed
    fun m hm hm' => hapart m (h.within m hm) (h'.within m hm')
  within := fun m hm => (covered_append.1 hm).imp (h.within m) (h'.within m)
  same := fun m hm => (h'.same m fun h => hm (.inr h)).trans (h.same m fun h => hm (.inl h))
  size := h'.size.trans h.size
  objects := h'.objects.trans h.objects
  queue := h'.queue.trans h.queue

/-- The entries of a mapping outside of the region are of no account. -/
theorem setEntries (h : Moved b region spots b')
    (hmapping : ∃ es, (b.node number).content = .mapping es) (hnumber : ¬ region number)
    (es : List (Nat × Nat)) :
    Moved (b.setEntries number es) region spots (b'.setEntries number es) := by
  obtain ⟨es₀, hnode⟩ := hmapping
  have hsame := h.same number hnumber
  have hnode' : (b'.node number).content = .mapping es₀ := by rw [hsame, hnode]
  refine ⟨h.placed.congr fun m hm => ?_, h.within, fun m hm => ?_, ?_, h.objects, h.queue⟩
  · rw [node_setEntries hnode', if_neg fun heq : number = m => hnumber (heq ▸ h.within m hm)]
  · rw [node_setEntries hnode', node_setEntries hnode, h.same m hm]
  · simp only [Builder.setEntries, Array.size_modify, h.size]

end Moved

theorem holds_renamed {key : Spot} (h : Holds b.node key) :
    Holds (b.renamed key.number).node ⟨key.number, key.tree.ownKey⟩ := by
  rw [Tree.ownKey]
  split
  · rename_i htag
    refine h.withTag ?_ fun m hm => ?_
    · rw [node_renamed, if_pos ⟨rfl, h.tag_eq.trans htag⟩]
    · rw [node_renamed, if_neg fun h => hm h.1.symm]
  · rename_i htag
    rw [renamed, if_neg fun heq => htag (h.tag_eq.symm.trans heq)]
    exact h

/-- A key of the mapping's own becomes a text if it marks one, and its value stays. -/
theorem moved_renamed {key value : Spot} (hplaced : Placed b.node [key, value]) :
    Moved b (Covered [key, value]) [⟨key.number, key.tree.ownKey⟩, value] (b.renamed key.number) := by
  have hkey := hplaced.head
  have hcovers (m : Nat) : (⟨key.number, key.tree.ownKey⟩ : Spot).Covers m ↔ key.Covers m := by
    simp only [Spot.Covers, Tree.size_ownKey]
  have hother : ∀ m, m ≠ key.number → (b.renamed key.number).node m = b.node m := fun m hm => by
    rw [node_renamed, if_neg fun h => hm h.1.symm]
  obtain ⟨hobjects, hqueue, hsize⟩ := renamed_same b key.number
  refine ⟨⟨fun s hs => ?_, ?_⟩, fun m hm => ?_, fun m hm => hother m fun heq => ?_, hsize, hobjects,
    hqueue⟩
  · rcases List.mem_cons.1 hs with rfl | hs
    · exact holds_renamed hkey
    · obtain rfl := List.mem_singleton.1 hs
      refine hplaced.tail.head.congr fun m hm => hother m fun heq => ?_
      exact hplaced.not_covered (heq ▸ key.covers_number) (by simpa using hm)
  · refine List.pairwise_cons.2 ⟨fun s hs m hm hm' => ?_, List.pairwise_singleton ..⟩
    exact hplaced.not_covered ((hcovers m).1 hm) ⟨s, hs, hm'⟩
  · rw [covered_cons, hcovers] at hm
    exact covered_cons.2 hm
  · exact hm (covered_cons.2 (.inl (heq ▸ key.covers_number)))

/-! ### What a merge key brings -/

/-- The entries of one more item, put before those of the items so far. -/
def bringItem (fuel : Nat) (state : Builder × List (List (Nat × Nat))) (item : Nat) :
    Except Failure (Builder × List (List (Nat × Nat))) :=
  if !state.1.isMapping item then noValue
  else (flattenFrom fuel item 0 [] state.1).bind fun b => .ok (b, b.entriesOf item :: state.2)

/-- The entries that a merge key with this value brings. -/
def bring (fuel value : Nat) (b : Builder) : Except Failure (Builder × List (Nat × Nat)) :=
  match (b.node value).content with
  | .mapping _ => (flattenFrom fuel value 0 [] b).bind fun b => .ok (b, b.entriesOf value)
  | .sequence items =>
      (items.foldlM (bringItem fuel) (b, [])).bind fun (b, lists) => .ok (b, lists.flatten)
  | .scalar _ => noValue

variable {fuel key value : Nat} {front merged : List (Nat × Nat)}

theorem flattenFrom_end (hnode : (b.node number).content = .mapping front) :
    flattenFrom (fuel + 1) number front.length merged b =
      .ok (if merged = [] then b else b.setEntries number (merged ++ front)) := by
  rw [flattenFrom, entriesOf_eq hnode, List.getElem?_eq_none (Nat.le_refl _)]

theorem flattenFrom_merge (hnode : (b.node number).content = .mapping (front ++ (key, value) :: es))
    (hkey : (b.node key).tag = .merge) :
    flattenFrom (fuel + 1) number front.length merged b =
      (bring fuel value (b.setEntries number (front ++ es))).bind fun (b, brought) =>
        flattenFrom fuel number front.length (merged ++ brought) b := by
  have hentry : (front ++ (key, value) :: es)[front.length]? = some (key, value) := by simp
  have herase : (front ++ (key, value) :: es).eraseIdx front.length = front ++ es := by
    rw [List.eraseIdx_append_of_length_le (Nat.le_refl _), Nat.sub_self, List.eraseIdx_cons_zero]
  rw [flattenFrom]
  simp only [entriesOf_eq hnode, hentry, hkey, herase, bring]
  cases hvalue : ((b.setEntries number (front ++ es)).node value).content with
  | mapping _ => cases flattenFrom fuel value 0 [] (b.setEntries number (front ++ es)) <;> rfl
  | sequence items =>
    have hitems : (fun (state : Builder × List (List (Nat × Nat))) item =>
        if !state.1.isMapping item then noValue
        else do
          let b ← flattenFrom fuel item 0 [] state.1
          return (b, b.entriesOf item :: state.2)) = bringItem fuel := rfl
    simp only
    rw [hitems]
    cases items.foldlM (bringItem fuel) (b.setEntries number (front ++ es), []) <;> rfl
  | scalar _ => rfl

theorem flattenFrom_own (hnode : (b.node number).content = .mapping (front ++ (key, value) :: es))
    (hkey : (b.node key).tag ≠ .merge) :
    flattenFrom (fuel + 1) number front.length merged b =
      flattenFrom fuel number (front.length + 1) merged (b.renamed key) := by
  have hentry : (front ++ (key, value) :: es)[front.length]? = some (key, value) := by simp
  rw [flattenFrom]
  simp only [entriesOf_eq hnode, hentry, renamed]
  split
  · exact absurd ‹_› hkey
  · rw [if_pos ‹_›]
  · rw [if_neg ‹_›]

/-! ### Merge keys in a document that is a tree -/

/-- What is left when merge keys of a mapping are resolved from some of its entries on.  The mapping
has the entries `front` before these, and `merged` are to be put before them. -/
def Flattened (b : Builder) (number : Nat) (front merged : List (Nat × Nat))
    (entries : List (Spot × Spot)) (b' : Builder) : Prop :=
  ∃ brought own, Tree.flat? (treesOf entries) = some (treesOf brought, treesOf own) ∧
    Moved (b.setEntries number (merged ++ entryNumbers brought ++ front ++ entryNumbers own))
      (Covered (spotsOf entries)) (spotsOf (brought ++ own)) b'

/-- With this fuel merge keys are resolved as they are in the tree. -/
def Flattens (fuel : Nat) : Prop :=
  ∀ (b : Builder) (number : Nat) (front merged : List (Nat × Nat)) (entries : List (Spot × Spot)),
    (b.node number).content = .mapping (front ++ entryNumbers entries) →
    Placed b.node (spotsOf entries) → ¬ Covered (spotsOf entries) number →
    Tree.sizeOfEntries (treesOf entries) < fuel →
    Yields (flattenFrom fuel number front.length merged b) (Tree.flat? (treesOf entries)).isSome
      (Flattened b number front merged entries)

/-- What is left of a state in which the entries that `t` stands for have come to `numbers`. -/
def Brings (b : Builder) (region : Nat → Prop) (brought? : Option (List (Tree × Tree)))
    (b' : Builder) (numbers : List (Nat × Nat)) : Prop :=
  ∃ brought, brought? = some (treesOf brought) ∧ numbers = entryNumbers brought ∧
    Moved b region (spotsOf brought) b'

/-- The entries of a whole mapping, which they all stand below. -/
theorem flattenFrom_mapping (ih : Flattens fuel) {n : Nat} {tag : Tag} {entries : List (Tree × Tree)}
    (h : Holds b.node ⟨n, .mapping tag entries⟩) (hfuel : Tree.sizeOfEntries entries < fuel) :
    Yields (flattenFrom fuel n 0 [] b) (Tree.mapping tag entries).brought?.isSome fun b' =>
      ∃ brought, (Tree.mapping tag entries).brought? = some (treesOf brought) ∧
        b'.entriesOf n = entryNumbers brought ∧
          Moved b (⟨n, .mapping tag entries⟩ : Spot).Covers (spotsOf brought) b' ∧
            ¬ Covered (spotsOf brought) n := by
  obtain ⟨hplaced, hbelow⟩ := h.placed_entries
  have hnode := h.node_mapping
  have hcontent : (b.node n).content = .mapping (entryNumbers (entriesFrom (n + 1) entries)) := by
    rw [hnode]
  have hnumber : ¬ Covered (spotsOf (entriesFrom (n + 1) entries)) n := fun h =>
    Nat.lt_irrefl n (hbelow n h).1
  have hyields := ih b n [] [] (entriesFrom (n + 1) entries) hcontent hplaced hnumber
    (by rwa [treesOf_entriesFrom])
  rw [treesOf_entriesFrom] at hyields
  refine hyields.imp (by rw [Tree.isSome_brought?_mapping]) ?_
  rintro b' - ⟨brought, own, hflat, hmoved⟩
  rw [treesOf_entriesFrom] at hflat
  refine ⟨brought ++ own, ?_, ?_, (hmoved.below ⟨_, hcontent⟩).mono ?_, mt (hmoved.within n) hnumber⟩
  · exact Tree.brought?_mapping.2 ⟨_, _, hflat, treesOf_append _ _⟩
  · refine entriesOf_eq ?_
    rw [hmoved.same n hnumber, node_setEntries hcontent, if_pos rfl]
    simp
  · rintro m (rfl | hm)
    · exact Spot.covers_number _
    · exact (hbelow m hm).2

/-- One more item, which must be a mapping. -/
theorem bringItem_yields (ih : Flattens fuel) {s : Spot} (h : Holds b.node s)
    (hfuel : s.tree.size ≤ fuel) (lists : List (List (Nat × Nat))) :
    Yields (bringItem fuel (b, lists) s.number) (s.tree.isMapping ∧ s.tree.brought?.isSome)
      fun after => ∃ numbers, after.2 = numbers :: lists ∧
        Brings b s.Covers s.tree.brought? after.1 numbers := by
  cases h with
  | scalar hnode =>
      rw [bringItem, isMapping, hnode]
      exact Yields.noValue (by simp [Tree.isMapping])
  | sequence hnode _ =>
      rw [bringItem, isMapping, hnode]
      exact Yields.noValue (by simp [Tree.isMapping])
  | mapping hnode hentries =>
      have hone := flattenFrom_mapping ih (.mapping hnode hentries) (Nat.lt_of_succ_le hfuel)
      rw [bringItem, isMapping, hnode]
      refine (hone.map fun b' _ h => ?_).imp (by simp [Tree.isMapping]) fun _ _ h => h
      obtain ⟨brought, hbrought, hentries, hmoved, -⟩ := h
      exact ⟨_, rfl, brought, hbrought, hentries, hmoved⟩

/-- All items, of which the last one comes first. -/
theorem foldlM_bringItem (ih : Flattens fuel) {spots : List Spot} (hplaced : Placed b.node spots)
    (hfuel : ∀ s ∈ spots, s.tree.size ≤ fuel) (lists : List (List (Nat × Nat))) :
    Yields ((spots.map Spot.number).foldlM (bringItem fuel) (b, lists))
      (Tree.allBrought? (spots.map Spot.tree)).isSome fun after => ∃ numbers,
        after.2.flatten = numbers ++ lists.flatten ∧
          Brings b (Covered spots) (Tree.allBrought? (spots.map Spot.tree)) after.1 numbers := by
  induction spots generalizing b lists with
  | nil => exact .ok rfl ⟨[], rfl, [], rfl, rfl, .nothing b _⟩
  | cons s spots ihs =>
      obtain ⟨hitem, hitems⟩ := List.forall_mem_cons.1 hfuel
      rw [List.map_cons, List.map_cons, List.foldlM_cons]
      refine (bringItem_yields ih hplaced.head hitem lists).bind Tree.isSome_allBrought?_cons ?_
      rintro after ⟨hmapping, -⟩ ⟨first, hlists, brought, hbrought, rfl, hmoved⟩
      have hrest : Placed after.1.node spots := hplaced.tail.congr fun m hm =>
        hmoved.same m fun hm' => hplaced.not_covered hm' hm
      refine (ihs hrest hitems after.2).imp Iff.rfl ?_
      rintro after' - ⟨numbers, hlists', more, hmore, rfl, hmoved'⟩
      have hboth := hmoved.beside hmoved' fun m => hplaced.not_covered
      refine ⟨entryNumbers (more ++ brought), ?_, more ++ brought, ?_, rfl, ?_⟩
      · rw [hlists', hlists, List.flatten_cons, entryNumbers_append, List.append_assoc]
      · exact Tree.allBrought?_cons.2 ⟨_, _, hmapping, hbrought, hmore, treesOf_append _ _⟩
      · rw [spotsOf_append]
        exact (hboth.perm List.perm_append_comm).mono fun m hm => covered_cons.2 hm

theorem bring_yields (ih : Flattens fuel) {s : Spot} (h : Holds b.node s)
    (hfuel : s.tree.size ≤ fuel) :
    Yields (bring fuel s.number b) s.tree.brought?.isSome fun after =>
      Brings b s.Covers s.tree.brought? after.1 after.2 := by
  cases h with
  | @scalar n tag text hnode =>
      have hbring : bring fuel n b = noValue := by simp [bring, hnode]
      rw [hbring]
      exact Yields.noValue (by simp [Tree.brought?])
  | @sequence n tag items hnode hitems =>
      obtain ⟨hplaced, hbelow⟩ := (Holds.sequence hnode hitems).placed_items
      have hbring : bring fuel n b =
          (((spotsFrom (n + 1) items).map Spot.number).foldlM (bringItem fuel) (b, [])).bind
            fun after => .ok (after.1, after.2.flatten) := by simp [bring, hnode]
      have htrees : (spotsFrom (n + 1) items).map Spot.tree = items := map_tree_spotsFrom _ _
      have hsizes : ∀ s ∈ spotsFrom (n + 1) items, s.tree.size ≤ fuel := fun s hs => by
        have hbounds := bounds_of_mem_spotsFrom hs
        rw [Tree.size] at hfuel
        omega
      have hall := foldlM_bringItem ih hplaced hsizes []
      rw [htrees] at hall
      rw [hbring]
      refine hall.map ?_
      rintro after - ⟨numbers, hlists, brought, hbrought, rfl, hmoved⟩
      refine ⟨brought, hbrought, ?_, hmoved.mono fun m hm => (hbelow m hm).2⟩
      rw [hlists, List.flatten_nil, List.append_nil]
  | @mapping n tag entries hnode hentries =>
      have hbring : bring fuel n b = (flattenFrom fuel n 0 [] b).bind fun b =>
          .ok (b, b.entriesOf n) := by simp [bring, hnode]
      rw [hbring]
      exact (flattenFrom_mapping ih (.mapping hnode hentries) (Nat.lt_of_succ_le hfuel)).map
        fun _ _ ⟨brought, hbrought, hentries, hmoved, _⟩ => ⟨brought, hbrought, hentries, hmoved⟩

section Entry

variable {key value : Spot} {entries : List (Spot × Spot)}

/-- A merge key: first the mappings that it names, then the other entries. -/
theorem flattenFrom_yields_merge (ih : Flattens fuel) (hkey : key.tree.tag = .merge)
    (hnode : (b.node number).content =
      .mapping (front ++ (key.number, value.number) :: entryNumbers entries))
    (hplaced : Placed b.node (key :: value :: spotsOf entries)) (hvalue : ¬ value.Covers number)
    (hrest : ¬ Covered (spotsOf entries) number) (hfuel : value.tree.size ≤ fuel)
    (hfuel' : Tree.sizeOfEntries (treesOf entries) < fuel) :
    Yields (flattenFrom (fuel + 1) number front.length merged b)
      (Tree.flat? ((key.tree, value.tree) :: treesOf entries)).isSome
      (Flattened b number front merged ((key, value) :: entries)) := by
  have hset (m : Nat) (hm : number ≠ m) :
      (b.setEntries number (front ++ entryNumbers entries)).node m = b.node m := by
    rw [node_setEntries hnode, if_neg hm]
  have hown : ((b.setEntries number (front ++ entryNumbers entries)).node number).content =
      .mapping (front ++ entryNumbers entries) := by rw [node_setEntries hnode, if_pos rfl]
  have hbring := bring_yields ih (hplaced.tail.head.congr fun m hm =>
    hset m fun heq => hvalue (heq ▸ hm)) hfuel
  rw [flattenFrom_merge hnode (hplaced.head.tag_eq.trans hkey)]
  refine hbring.bind (Tree.isSome_flat?_merge hkey) fun after _ => ?_
  rintro ⟨first, hfirst, hnumbers, hmoved⟩
  have hsame (m : Nat) (hm : Covered (spotsOf entries) m) : after.1.node m = b.node m := by
    rw [hmoved.same m fun hm' => hplaced.tail.not_covered hm' hm, hset m fun heq => hrest (heq ▸ hm)]
  have hnode' : (after.1.node number).content = .mapping (front ++ entryNumbers entries) := by
    rw [hmoved.same number hvalue, hown]
  refine (ih after.1 number front (merged ++ after.2) entries hnode'
    (hplaced.tail.tail.congr hsame) hrest hfuel').imp Iff.rfl ?_
  rintro b' - ⟨more, own, hflat, hmoved'⟩
  refine ⟨first ++ more, own, ?_, ?_⟩
  · exact (Tree.flat?_merge hkey).2 ⟨_, _, hfirst, hflat, treesOf_append _ _⟩
  · have hmoved := hmoved.setEntries ⟨_, hown⟩ hvalue
      (merged ++ after.2 ++ entryNumbers more ++ front ++ entryNumbers own)
    rw [setEntries_setEntries] at hmoved
    have hboth := hmoved.beside hmoved' fun m => hplaced.tail.not_covered
    rw [hnumbers] at hboth
    simp only [entryNumbers_append, spotsOf_append, List.append_assoc] at hboth ⊢
    exact hboth.mono fun m hm => covered_cons.2 (.inr (covered_cons.2 hm))

/-- Another key: it stays in the mapping. -/
theorem flattenFrom_yields_own (ih : Flattens fuel) (hkey : key.tree.tag ≠ .merge)
    (hnode : (b.node number).content =
      .mapping (front ++ (key.number, value.number) :: entryNumbers entries))
    (hplaced : Placed b.node ([key, value] ++ spotsOf entries))
    (hpair : ¬ Covered [key, value] number) (hrest : ¬ Covered (spotsOf entries) number)
    (hfuel : Tree.sizeOfEntries (treesOf entries) < fuel) :
    Yields (flattenFrom (fuel + 1) number front.length merged b)
      (Tree.flat? ((key.tree, value.tree) :: treesOf entries)).isSome
      (Flattened b number front merged ((key, value) :: entries)) := by
  obtain ⟨hplaced₁, hplaced₂, hapart⟩ := hplaced.split
  have hmoved := moved_renamed hplaced₁
  have hnode' : ((b.renamed key.number).node number).content =
      .mapping ((front ++ [(key.number, value.number)]) ++ entryNumbers entries) := by
    rw [hmoved.same number hpair, hnode, List.append_assoc, List.singleton_append]
  have hplaced' := hplaced₂.congr fun m hm => hmoved.same m fun hm' => hapart m hm' hm
  have hyields := ih (b.renamed key.number) number _ merged entries hnode' hplaced' hrest hfuel
  rw [List.length_append, List.length_singleton] at hyields
  rw [flattenFrom_own hnode fun h => hkey (hplaced₁.head.tag_eq.symm.trans h)]
  refine hyields.imp (Tree.isSome_flat?_own hkey).symm ?_
  rintro b' - ⟨brought, own, hflat, hmoved'⟩
  refine ⟨brought, (⟨key.number, key.tree.ownKey⟩, value) :: own, ?_, ?_⟩
  · exact (Tree.flat?_own hkey).2 ⟨_, hflat, rfl⟩
  · have hboth := (hmoved.setEntries ⟨_, hnode⟩ hpair _).beside hmoved' hapart
    simp only [entryNumbers_cons, List.append_assoc, List.singleton_append] at hboth ⊢
    refine (hboth.perm ?_).mono fun m hm => covered_append.2 hm
    rw [spotsOf_append, spotsOf_append, spotsOf_cons]
    exact List.perm_append_comm_assoc [_, _] (spotsOf brought) (spotsOf own)

end Entry

/-- **Merge keys are resolved as they are in the tree**, from any entry of a mapping on. -/
theorem flattenFrom_yields (fuel : Nat) : Flattens fuel := by
  induction fuel with
  | zero => exact fun _ _ _ _ _ _ _ _ h => absurd h (Nat.not_lt_zero _)
  | succ fuel ih =>
      intro b number front merged entries hnode hplaced hnumber hfuel
      cases entries with
      | nil =>
          rw [entryNumbers_nil, List.append_nil] at hnode
          rw [flattenFrom_end hnode]
          refine .ok rfl ⟨[], [], rfl, ?_⟩
          rw [entryNumbers_nil, List.append_nil, List.append_nil]
          split
          · rename_i hmerged
            rw [hmerged, List.nil_append]
            exact .again hnode _
          · exact .nothing _ _
      | cons entry entries =>
          obtain ⟨key, value⟩ := entry
          have hsize : Tree.sizeOfEntries (treesOf ((key, value) :: entries)) =
            key.tree.size + value.tree.size + Tree.sizeOfEntries (treesOf entries) := rfl
          have hpositive := key.tree.size_pos
          have hrest : ¬ Covered (spotsOf entries) number := fun h => hnumber (by simp [h])
          have hvalue : value.tree.size ≤ fuel := by omega
          have hfuel' : Tree.sizeOfEntries (treesOf entries) < fuel := by omega
          by_cases hkey : key.tree.tag = .merge
          · exact flattenFrom_yields_merge ih hkey hnode hplaced (fun h => hnumber (by simp [h]))
              hrest hvalue hfuel'
          · have hpair : ¬ Covered [key, value] number := fun h =>
              hnumber (covered_append.2 (.inl h) : Covered ([key, value] ++ spotsOf entries) number)
            exact flattenFrom_yields_own ih hkey hnode hplaced hpair hrest hfuel'

end Builder

end EntryTemplates.Document
