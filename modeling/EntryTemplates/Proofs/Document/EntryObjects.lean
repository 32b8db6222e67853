/-
**The objects of a written document, and what is found in it.**

The root is a mapping whose keys are the names of the entries.  As the names differ, none of them
takes the place of another one.

Main definitions:

* `EntryTemplates.Document.ReadEntry.objects` — the objects of an entry;
* `EntryTemplates.Document.keysFrom` — the entries of the mapping;
* `EntryTemplates.Document.Loaded.lookup` — the value under a key.

Main results:

* `EntryTemplates.Document.load_write` — **a written document is loaded, and under every name the
  text is found that was read for it**.
-/

import EntryTemplates.Document.Load
import EntryTemplates.Proofs.Document.AllowedText
import EntryTemplates.Proofs.Document.EntryNodes

set_option relaxedAutoImplicit false
set_option autoImplicit false

namespace EntryTemplates.Document

/-- The objects of an entry. -/
def ReadEntry.objects (e : ReadEntry) : List (Option Object) :=
  [some (.scalar (.text e.name)), some (.scalar (.text e.value))]

/-- The entries of the mapping, where the first name has the number `start`. -/
def keysFrom (start : Nat) : List ReadEntry → List (Datum × Nat)
  | [] => []
  | e :: es => (.text e.name, start + 1) :: keysFrom (start + 2) es

theorem keysFrom_append (start : Nat) (es es' : List ReadEntry) :
    keysFrom start (es ++ es') = keysFrom start es ++ keysFrom (start + 2 * es.length) es' := by
  induction es generalizing start with
  | nil => rfl
  | cons e es ih =>
      rw [List.cons_append, keysFrom, ih, keysFrom, List.length_cons, Nat.mul_add, Nat.add_assoc,
        Nat.add_comm 2, List.cons_append]

theorem mem_keysFrom {start : Nat} {es : List ReadEntry} {entry : Datum × Nat}
    (h : entry ∈ keysFrom start es) : ∃ e ∈ es, entry.1 = .text e.name := by
  induction es generalizing start with
  | nil => simp [keysFrom] at h
  | cons e es ih =>
      rcases List.mem_cons.1 h with rfl | h
      · exact ⟨e, by simp, rfl⟩
      · obtain ⟨e', he', hkey⟩ := ih h
        exact ⟨e', List.mem_cons_of_mem _ he', hkey⟩

/-- An entry under a new key is put behind the others. -/
theorem putEntry_of_fresh {key : Datum} {filled : List (Datum × Nat)}
    (h : ∀ entry ∈ filled, sameKey entry.1 key = false) (value : Nat) :
    putEntry key value filled = filled ++ [(key, value)] := by
  induction filled with
  | nil => rfl
  | cons entry filled ih =>
      obtain ⟨k, v⟩ := entry
      have hk : sameKey k key = false := h (k, v) (by simp)
      rw [putEntry, hk, ih fun entry hmem => h entry (List.mem_cons_of_mem _ hmem)]
      rfl

theorem sameKey_text (s t : String) : sameKey (.text s) (.text t) = decide (s = t) := rfl

/-! ### Filling the mapping -/

theorem mem_pairsFrom {start n : Nat} {pair : Nat × Nat} (h : pair ∈ pairsFrom start n) :
    start ≤ pair.1 ∧ pair.1 < start + 2 * n := by
  induction n generalizing start with
  | zero => simp [pairsFrom] at h
  | succ n ih =>
      rcases List.mem_cons.1 h with rfl | h
      · simp only
        omega
      · have := ih h
        omega

theorem length_pairsFrom (start n : Nat) : (pairsFrom start n).length = n := by
  induction n generalizing start with
  | zero => rfl
  | succ n ih => rw [pairsFrom, List.length_cons, ih]

namespace Builder

theorem node_put (b : Builder) (number : Nat) (o : Object) : (b.put number o).node = b.node := rfl

/-- The object of a text that was not met before. -/
theorem build_text {b : Builder} {number : Nat} {text : String}
    (hnode : b.node number = ⟨.str, .scalar text⟩) (hobject : b.objects[number]?.getD none = none) :
    b.build number = .ok (b.put number (.scalar (.text text))) := by
  rw [build, hobject]
  simp [hnode, scalarValue, textOf, bind, Except.bind, pure, Except.pure, Except.map]

/-- Where all keys are texts, there is nothing to be merged. -/
theorem flattenFrom_of_texts {b : Builder} {number : Nat}
    (h : ∀ entry ∈ b.entriesOf number, (b.node entry.1).tag = .str) (fuel index : Nat)
    (hfuel : (b.entriesOf number).length - index < fuel) :
    flattenFrom fuel number index [] b = .ok b := by
  induction fuel generalizing index with
  | zero => omega
  | succ fuel ih =>
      rw [flattenFrom]
      cases hentry : (b.entriesOf number)[index]? with
      | none => simp
      | some entry =>
          obtain ⟨key, value⟩ := entry
          have hkey : (b.node key).tag = .str := h (key, value) (List.mem_of_getElem? hentry)
          have := (List.getElem?_eq_some_iff.1 hentry).1
          simp only [hkey]
          exact ih (index + 1) (by omega)

/-- The state in which the entries `done` are filled and `es` are not. -/
def half (done es : List ReadEntry) : Builder :=
  { nodes := (documentNodes (done ++ es)).toArray
    objects := (some (Object.map []) :: (done.flatMap ReadEntry.objects
      ++ List.replicate (2 * es.length) none)).toArray
    queue := [] }

/-- What puts two things in the place of each entry makes a list twice as long. -/
theorem length_flatMap_of_pairs {α : Type} {f : ReadEntry → List α} (h : ∀ e, (f e).length = 2)
    (es : List ReadEntry) : (es.flatMap f).length = 2 * es.length := by
  induction es with
  | nil => rfl
  | cons e es ih =>
      rw [List.flatMap_cons, List.length_append, ih, h, List.length_cons, Nat.mul_add, Nat.add_comm]

theorem length_flatMap_nodes (es : List ReadEntry) :
    (es.flatMap ReadEntry.nodes).length = 2 * es.length :=
  length_flatMap_of_pairs (fun _ => rfl) es

theorem length_flatMap_objects (es : List ReadEntry) :
    (es.flatMap ReadEntry.objects).length = 2 * es.length :=
  length_flatMap_of_pairs (fun _ => rfl) es

/-- The next entry is filled. -/
theorem build_half (done es : List ReadEntry) (e : ReadEntry) :
    ∃ b, (half done (e :: es)).build (1 + 2 * done.length) = .ok b ∧
      b.objects[1 + 2 * done.length]?.getD none = some (.scalar (.text e.name)) ∧
      b.build (1 + 2 * done.length + 1) = .ok (half (done ++ [e]) es) := by
  have hlength := length_flatMap_nodes done
  have hlength' := length_flatMap_objects done
  -- the root and the entries before it stand in front of the next name
  have hname : (half done (e :: es)).node (1 + 2 * done.length) = ⟨.str, .scalar e.name⟩ := by
    simp [node, half, documentNodes, ReadEntry.nodes, Nat.add_comm 1, ← hlength]
  have hvalue : (half done (e :: es)).node (1 + 2 * done.length + 1) =
      ⟨.str, .scalar e.value⟩ := by
    simp [node, half, documentNodes, ReadEntry.nodes, Nat.add_comm 1, ← hlength]
  have hobjects : (half done (e :: es)).objects = (some (Object.map [])
      :: (done.flatMap ReadEntry.objects
        ++ none :: none :: List.replicate (2 * es.length) none)).toArray := by
    simp [half, Nat.mul_add, List.replicate_succ]
  have hfree : (half done (e :: es)).objects[1 + 2 * done.length]?.getD none = none := by
    simp [hobjects, Nat.add_comm 1, ← hlength']
  refine ⟨_, build_text hname hfree, ?_, ?_⟩
  · simp [put, hobjects, Nat.add_comm 1, ← hlength']
  · rw [build_text (by rw [node_put]; exact hvalue)]
    · simp only [put, hobjects, Nat.add_comm 1, ← hlength']
      simp [half, -List.length_flatMap]
      rfl
    · simp [put, hobjects, Nat.add_comm 1, ← hlength', -List.length_flatMap]

/-- One more entry is filled. -/
def fillEntry (state : Builder × List (Datum × Nat)) (entry : Nat × Nat) :
    Except Failure (Builder × List (Datum × Nat)) := do
  let b ← state.1.build entry.1
  match b.objects[entry.1]?.getD none with
  | some (.scalar d) =>
      let b ← b.build entry.2
      return (b, putEntry d entry.2 state.2)
  | _ => noValue

theorem fillEntries_eq (b : Builder) (entries : List (Nat × Nat)) :
    b.fillEntries entries = entries.foldlM fillEntry (b, []) := rfl

theorem fillEntry_half {done es : List ReadEntry} {e : ReadEntry}
    (hfresh : ∀ d ∈ done, d.name ≠ e.name) :
    fillEntry (half done (e :: es), keysFrom 1 done)
        (1 + 2 * done.length, 1 + 2 * done.length + 1) =
      .ok (half (done ++ [e]) es, keysFrom 1 (done ++ [e])) := by
  obtain ⟨b, hname, hobject, hvalue⟩ := build_half done es e
  have hput : putEntry (.text e.name) (1 + 2 * done.length + 1) (keysFrom 1 done) =
      keysFrom 1 (done ++ [e]) := by
    rw [putEntry_of_fresh, keysFrom_append]
    · rfl
    · intro entry hentry
      obtain ⟨d, hd, hkey⟩ := mem_keysFrom hentry
      rw [hkey, sameKey_text]
      exact decide_eq_false (hfresh d hd)
  simp [fillEntry, hname, hobject, hvalue, hput, bind, Except.bind, pure, Except.pure]

/-- **All entries of the mapping are filled.** -/
theorem foldlM_fillEntry (done es : List ReadEntry)
    (hnames : ((done ++ es).map ReadEntry.name).Nodup) :
    (pairsFrom (1 + 2 * done.length) es.length).foldlM fillEntry
        (half done es, keysFrom 1 done) =
      .ok (half (done ++ es) [], keysFrom 1 (done ++ es)) := by
  induction es generalizing done with
  | nil => simp [pairsFrom, pure, Except.pure]
  | cons e es ih =>
      have hfresh : ∀ d ∈ done, d.name ≠ e.name := by
        rw [List.map_append, List.nodup_append] at hnames
        intro d hd
        exact hnames.2.2 d.name (List.mem_map_of_mem hd) e.name (by simp)
      have hmore := ih (done ++ [e]) (by simpa using hnames)
      rw [List.length_cons, pairsFrom, List.foldlM_cons, fillEntry_half hfresh]
      simp only [bind, Except.bind]
      simpa [Nat.mul_add, Nat.add_assoc] using hmore

theorem entriesOf_half (es : List ReadEntry) :
    (half [] es).entriesOf 0 = pairsFrom 1 es.length := by
  simp [entriesOf, node, half, documentNodes]

/-- Every name is a text. -/
theorem tag_key {es : List ReadEntry} {entry : Nat × Nat}
    (hentry : entry ∈ (half [] es).entriesOf 0) : ((half [] es).node entry.1).tag = .str := by
  rw [entriesOf_half] at hentry
  obtain ⟨hlow, hhigh⟩ := mem_pairsFrom hentry
  obtain ⟨k, hk⟩ : ∃ k, entry.1 = k + 1 := ⟨entry.1 - 1, by omega⟩
  have hk' : k < (es.flatMap ReadEntry.nodes).length := by
    rw [length_flatMap_nodes]
    omega
  have htexts : ∀ n ∈ es.flatMap ReadEntry.nodes, n.tag = .str := by
    intro n hn
    obtain ⟨e, -, hn⟩ := List.mem_flatMap.1 hn
    simp only [ReadEntry.nodes, List.mem_cons, List.not_mem_nil, or_false] at hn
    rcases hn with rfl | rfl <;> rfl
  have hnode : (half [] es).node entry.1 = (es.flatMap ReadEntry.nodes)[k] := by
    simp [node, half, documentNodes, hk, hk', -List.length_flatMap]
  rw [hnode]
  exact htexts _ (List.getElem_mem hk')

/-- **The mapping of a written document is filled.** -/
theorem fill_half {es : List ReadEntry} (hnames : (es.map ReadEntry.name).Nodup) :
    (half [] es).fill 0 = .ok ((half es []).put 0 (.map (keysFrom 1 es))) := by
  have hroot : (half [] es).node 0 = ⟨.map, .mapping (pairsFrom 1 es.length)⟩ := by
    simp [node, half, documentNodes]
  have hlength : ((half [] es).entriesOf 0).length - 0 <
      ((half [] es).entryCount + 2) * ((half [] es).entryCount + 2) + (half [] es).nodes.size := by
    rw [entriesOf_half, length_pairsFrom]
    have : (half [] es).nodes.size = 2 * es.length + 1 := by
      simp [half, documentNodes, length_flatMap_nodes, -List.length_flatMap]
    omega
  -- no key merges another mapping, so the entries are filled as they stand
  have hflat := flattenFrom_of_texts (fun _ => tag_key) _ 0 hlength
  have hfilled := foldlM_fillEntry [] es (by simpa using hnames)
  simp only [List.length_nil, Nat.mul_zero, Nat.add_zero, List.nil_append] at hfilled
  have hmapping : (half [] es).fillMapping 0 = .ok (half es [], keysFrom 1 es) := by
    simp only [fillMapping, isMapping, hroot, hflat, fillEntries_eq, bind, Except.bind]
    simpa [entriesOf_half, keysFrom] using hfilled
  simp [fill, hroot, hmapping, bind, Except.bind, pure, Except.pure]

end Builder

/-- The objects of a whole document. -/
def documentObjects (es : List ReadEntry) : Loaded :=
  ⟨(some (Object.map (keysFrom 1 es)) :: es.flatMap ReadEntry.objects).toArray, some 0⟩

/-- **The objects of a written document.** -/
theorem ofGraph_write {es : List ReadEntry} (hnames : (es.map ReadEntry.name).Nodup) :
    Loaded.ofGraph ⟨(documentNodes es).toArray, some 0⟩ = .ok (documentObjects es) := by
  have hsize : (documentNodes es).toArray.size = 2 * es.length + 1 := by
    simp [documentNodes, Builder.length_flatMap_nodes, -List.length_flatMap]
  have hroot (objects : Array (Option Object)) (queue : List Nat) :
      (Builder.mk (documentNodes es).toArray objects queue).node 0 =
        ⟨.map, .mapping (pairsFrom 1 es.length)⟩ := by
    simp [Builder.node, documentNodes]
  have hbuild : Builder.build ⟨(documentNodes es).toArray,
      Array.replicate (2 * es.length + 1) none, []⟩ 0 =
        .ok { Builder.half [] es with queue := [0] } := by
    rw [Builder.build, hroot]
    simp [Builder.put, Builder.half, ← List.toArray_replicate, List.replicate_succ]
  -- one round fills the root, and leaves nothing for another one
  have hrun : ({ Builder.half [] es with queue := [0] } : Builder).run (2 * es.length + 1 + 1) =
      .ok ((Builder.half es []).put 0 (.map (keysFrom 1 es))) := by
    have hfill :
        ({ ({ Builder.half [] es with queue := [0] } : Builder) with queue := [] }).fill 0 =
        .ok ((Builder.half es []).put 0 (.map (keysFrom 1 es))) := Builder.fill_half hnames
    rw [Builder.run]
    simp only [hfill, bind, Except.bind, Builder.run]
    rfl
  simp only [Loaded.ofGraph, hsize, hbuild, hrun, bind, Except.bind, pure, Except.pure]
  simp [Builder.put, Builder.half, documentObjects]

/-! ### What is found under a name -/

namespace Loaded

/-- The value under a key. -/
def lookup (l : Loaded) (entries : List (Datum × Nat)) (key : String) : Option Datum :=
  (entries.find? fun (k, _) => sameKey k (.text key)).map fun (_, n) => l.value n

theorem value_of_scalar {l : Loaded} {number : Nat} {d : Datum}
    (h : l.objects[number]?.getD none = some (.scalar d)) : l.value number = d := by
  rw [value, valueFrom, object, h]
  rfl

theorem lookup_keysFrom {l : Loaded} {before : List (Option Object)} {es : List ReadEntry}
    (hl : l.objects = (before ++ es.flatMap ReadEntry.objects).toArray) (key : String) :
    l.lookup (keysFrom before.length es) key =
      (es.find? fun e => e.name = key).map fun e => .text e.value := by
  induction es generalizing before with
  | nil => rfl
  | cons e es ih =>
      have hmore := @ih (before ++ e.objects) (by rw [hl]; simp)
      have hvalue : l.value (before.length + 1) = .text e.value := by
        refine value_of_scalar ?_
        simp [hl, ReadEntry.objects]
      rw [List.length_append] at hmore
      rw [lookup, keysFrom, List.find?_cons, List.find?_cons]
      simp only [sameKey_text]
      by_cases hname : e.name = key
      · simp [hname, hvalue]
      · simp only [hname, decide_false]
        exact hmore

end Loaded

/-! ### Documents as a whole -/

/-- Of entries with different names the one with a given name is found. -/
theorem find?_of_mem {es : List ReadEntry} (hnames : (es.map ReadEntry.name).Nodup) {e : ReadEntry}
    (he : e ∈ es) : es.find? (fun d => d.name = e.name) = some e := by
  induction es with
  | nil => simp at he
  | cons d es ih =>
      rw [List.map_cons, List.nodup_cons] at hnames
      rw [List.find?_cons]
      rcases List.mem_cons.1 he with rfl | he
      · simp
      · have hne : d.name ≠ e.name := fun h => hnames.1 (h ▸ List.mem_map_of_mem he)
        simp only [hne, decide_false]
        exact ih hnames.2 he

/-- **A written document is loaded, and under every name stands what was read for its text.** -/
theorem load_write {entries : List (String × String)} (hne : entries ≠ [])
    (hentries : ∀ entry ∈ entries, IsEntryName entry.1) (hnames : (entries.map Prod.fst).Nodup) :
    ∃ (l : Loaded) (found : List (Datum × Nat)), load (write entries) = .ok l ∧
      l.entries? = some found ∧ ∀ name text, (name, text) ∈ entries →
        ∃ value, ValueRead text value ∧ l.lookup found name = some (.text value) := by
  obtain ⟨es, rfl, htokens⟩ := tokens_write hne hentries
  rw [List.map_map] at hnames
  refine ⟨documentObjects es, keysFrom 1 es, ?_, rfl, ?_⟩
  · simp only [load, isAllowed_write hentries, htokens, events_write, graph_write, if_true, bind,
      Except.bind, ofGraph_write hnames]
  · intro name text hmem
    obtain ⟨e, he, hwritten⟩ := List.mem_map.1 hmem
    obtain ⟨rfl, rfl⟩ := Prod.mk.inj hwritten
    refine ⟨e.value, e.read, ?_⟩
    rw [show 1 = ([some (.map (keysFrom 1 es))] : List (Option Object)).length from rfl,
      Loaded.lookup_keysFrom rfl, find?_of_mem hnames he]
    rfl

end EntryTemplates.Document
