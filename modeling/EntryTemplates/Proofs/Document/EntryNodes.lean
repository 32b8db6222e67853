/-
**From the tokens of a written document to its nodes.**

The events of an entry are its name and its text, and each of them becomes a node of its own.  The
node of the mapping stands before them.

Main definitions:

* `EntryTemplates.Document.ReadEntry.events`, `EntryTemplates.Document.ReadEntry.nodes` — the events
  and the nodes of an entry;
* `EntryTemplates.Document.Reader.Gives` — reading events comes to another state;
* `EntryTemplates.Document.pairsFrom` — the numbers of names and texts.

Main results:

* `EntryTemplates.Document.events_write` — **the events of a written document**;
* `EntryTemplates.Document.graph_write` — **its nodes**.
-/

import EntryTemplates.Document.Graph
import EntryTemplates.Proofs.Document.EntryTokens

set_option relaxedAutoImplicit false
set_option autoImplicit false

namespace EntryTemplates.Document

/-! ### Events -/

/-- The events of an entry. -/
def ReadEntry.events (e : ReadEntry) : List Event :=
  [.scalar .none true e.name, .scalar .none (decide (readForm e.text = .plain)) e.value]

/-- Every event comes from a token of its own. -/
theorem ReadEntry.length_events (es : List ReadEntry) :
    (es.flatMap ReadEntry.events).length ≤ (es.flatMap ReadEntry.tokens).length := by
  induction es with
  | nil => simp
  | cons e es ih =>
      simp only [List.flatMap_cons, List.length_append, ReadEntry.events, ReadEntry.tokens,
        List.length_cons, List.length_nil]
      omega

namespace Reader

/-- Reading the events `es` comes to the state `r'`. -/
def Gives (r : Reader) (es : List Event) (r' : Reader) : Prop :=
  ∀ fuel taken, run (fuel + es.length) r taken = run fuel r' (es.reverse ++ taken)

theorem Gives.nil (r : Reader) : Gives r [] r := fun _ _ => rfl

theorem Gives.trans {r r' r'' : Reader} {es es' : List Event} (h : Gives r es r')
    (h' : Gives r' es' r'') : Gives r (es ++ es') r'' := by
  intro fuel taken
  rw [List.length_append, Nat.add_comm es.length, ← Nat.add_assoc, h, h', List.reverse_append,
    List.append_assoc]

/-- One event. -/
theorem gives_step {r r' : Reader} {e : Event} (hstep : r.step = .ok (e, r'))
    (he : e ≠ .streamEnd) : Gives r [e] r' := by
  intro fuel taken
  rw [List.length_singleton, run, hstep]
  cases e <;> first | rfl | exact absurd rfl he

/-- Where a key of a block mapping or its end is expected, with the tokens `ts` ahead. -/
def atKey (ts : List Token) : Reader :=
  { tokens := ⟨ts, .malformed .grammar⟩
    handles := defaultHandles
    now := .blockMappingKey
    later := [.documentEnd] }

/-- Where the value of an entry is expected. -/
def atValue (ts : List Token) : Reader := { atKey ts with now := .blockMappingValue }

/-- **An entry.** -/
theorem gives_entry (e : ReadEntry) (ts : List Token) :
    Gives (atKey (e.tokens ++ ts)) e.events (atKey ts) := by
  have hname : step (atKey (e.tokens ++ ts)) = .ok (.scalar .none true e.name,
      atValue (.value :: .scalar e.value (readForm e.text) :: ts)) := rfl
  have hvalue : step (atValue (.value :: .scalar e.value (readForm e.text) :: ts)) =
      .ok (.scalar .none (decide (readForm e.text = .plain)) e.value, atKey ts) := by
    cases hform : readForm e.text <;> rfl
  exact (gives_step hname (by simp)).trans (gives_step hvalue (by simp))

/-- **The entries of a mapping.** -/
theorem gives_entries (es : List ReadEntry) (ts : List Token) :
    Gives (atKey (es.flatMap ReadEntry.tokens ++ ts)) (es.flatMap ReadEntry.events) (atKey ts) := by
  induction es with
  | nil => exact Gives.nil _
  | cons e es ih =>
      rw [List.flatMap_cons, List.append_assoc, List.flatMap_cons]
      exact (gives_entry e _).trans ih

/-- Before the first entry. -/
theorem gives_start (ts : List Token) :
    Gives (start ⟨.streamStart :: .blockMappingStart :: ts, .malformed .grammar⟩)
      [.streamStart, .documentStart, .mappingStart .none] (atKey ts) := by
  have hstream : Gives (start ⟨.streamStart :: .blockMappingStart :: ts, .malformed .grammar⟩)
      [.streamStart] { atKey (.blockMappingStart :: ts) with now := .firstDocument, later := [] } :=
    gives_step rfl (by simp)
  have hdocument :
      Gives { atKey (.blockMappingStart :: ts) with now := .firstDocument, later := [] }
        [.documentStart] { atKey (.blockMappingStart :: ts) with now := .blockNode } :=
    gives_step rfl (by simp)
  have hmapping : Gives { atKey (.blockMappingStart :: ts) with now := .blockNode }
      [.mappingStart .none] (atKey ts) := gives_step rfl (by simp)
  exact hstream.trans (hdocument.trans hmapping)

/-- Behind the last entry. -/
theorem run_atKey_end (fuel : Nat) (taken : List Event) :
    run (fuel + 3) (atKey [.blockEnd, .streamEnd]) taken =
      ⟨taken.reverse ++ [.mappingEnd, .documentEnd, .streamEnd], .malformed .grammar⟩ := by
  have hmapping : Gives (atKey [.blockEnd, .streamEnd]) [.mappingEnd]
      { atKey [.streamEnd] with now := .documentEnd, later := [] } := gives_step rfl (by simp)
  have hdocument : Gives { atKey [.streamEnd] with now := .documentEnd, later := [] }
      [.documentEnd] { atKey [.streamEnd] with now := .document, later := [] } :=
    gives_step rfl (by simp)
  have hstream : step { atKey [.streamEnd] with now := .document, later := [] } =
      .ok (.streamEnd, { atKey [] with now := .nothing, later := [] }) := rfl
  have hends := (hmapping.trans hdocument) (fuel + 1) taken
  rw [run, hstream] at hends
  rw [show fuel + 3 = fuel + 1 + ([.mappingEnd] ++ [.documentEnd] : List Event).length from rfl,
    hends]
  simp

end Reader

/-- The events of a whole document. -/
def documentEvents (es : List ReadEntry) : Feed Event :=
  ⟨[.streamStart, .documentStart, .mappingStart .none] ++ es.flatMap ReadEntry.events
    ++ [.mappingEnd, .documentEnd, .streamEnd], .malformed .grammar⟩

/-- **The events of a written document.** -/
theorem events_write (es : List ReadEntry) : events (documentTokens es) = documentEvents es := by
  obtain ⟨ts, hts⟩ : ∃ ts, ts = es.flatMap ReadEntry.tokens ++ [.blockEnd, .streamEnd] := ⟨_, rfl⟩
  have hgives := (Reader.gives_start ts).trans (hts ▸ Reader.gives_entries es _)
  -- there are fewer events than tokens, so the run does not end early
  obtain ⟨gs, hgs⟩ : ∃ gs, gs = [.streamStart, .documentStart, .mappingStart .none]
    ++ es.flatMap ReadEntry.events := ⟨_, rfl⟩
  have hlength : gs.length ≤ ts.length + 3 := by
    have := ReadEntry.length_events es
    simp only [hts, hgs, List.length_append, List.length_cons, List.length_nil]
    omega
  obtain ⟨fuel, hfuel⟩ : ∃ fuel, 4 * (ts.length + 2) + 16 = fuel + 3 + gs.length :=
    ⟨4 * (ts.length + 2) + 13 - gs.length, by omega⟩
  have hrun := hgives (fuel + 3) []
  rw [Reader.run_atKey_end, ← hgs, ← hfuel] at hrun
  have htokens : documentTokens es =
      ⟨.streamStart :: .blockMappingStart :: ts, .malformed .grammar⟩ := by
    simp [documentTokens, hts]
  rw [htokens, events, List.length_cons, List.length_cons, hrun, hgs]
  simp [documentEvents]

/-! ### Nodes -/

/-- The nodes of an entry: both are texts. -/
def ReadEntry.nodes (e : ReadEntry) : List Node :=
  [⟨.str, .scalar e.name⟩, ⟨.str, .scalar e.value⟩]

/-- The numbers of the names and texts of `n` entries. -/
def pairsFrom (start : Nat) : Nat → List (Nat × Nat)
  | 0 => []
  | n + 1 => (start, start + 1) :: pairsFrom (start + 2) n

/-- A text without quotes means no more than its characters. -/
theorem ReadEntry.tag_value (e : ReadEntry) :
    Collector.scalarTag .none (decide (readForm e.text = .plain)) e.value = .str := by
  by_cases hform : formOf e.text = .plain
  · have hvalue : e.value = e.text := e.read.same (by simp [Lost, hform])
    simp [Collector.scalarTag, Label.none, readForm, hform, hvalue, (formOf_eq_plain hform).2.2.2.2]
  · have hread : readForm e.text ≠ .plain := by
      rw [readForm]
      cases h : formOf e.text <;> simp_all
    simp [Collector.scalarTag, Label.none, hread]

namespace Collector

/-- Inside the mapping of a written document, with the numbers of the nodes read so far. -/
def inside (nodes : List Node) (items : List Nat) : Collector :=
  { nodes := nodes.toArray
    root := none
    anchors := []
    path := [⟨0, items⟩]
    ended := false }

/-- **An entry.** -/
theorem foldlM_entry (e : ReadEntry) (nodes : List Node) (items : List Nat) :
    e.events.foldlM step (inside nodes items) =
      .ok (inside (nodes ++ e.nodes) ((nodes.length + 1) :: nodes.length :: items)) := by
  have hname : scalarTag .none true e.name = .str := by
    simp [scalarTag, Label.none, e.isName.text]
  simp only [ReadEntry.events, List.foldlM_cons, List.foldlM_nil, step, hname, e.tag_value]
  simp [add, place, inside, Label.none, ReadEntry.nodes, bind, Except.bind, pure, Except.pure]

/-- **The entries of a mapping.** -/
theorem foldlM_entries (es : List ReadEntry) (nodes : List Node) (items : List Nat) :
    (es.flatMap ReadEntry.events).foldlM step (inside nodes items) =
      .ok (inside (nodes ++ es.flatMap ReadEntry.nodes)
        ((List.range' nodes.length (2 * es.length)).reverse ++ items)) := by
  induction es generalizing nodes items with
  | nil => simp [pure, Except.pure]
  | cons e es ih =>
      rw [List.flatMap_cons, List.foldlM_append, foldlM_entry]
      simp only [bind, Except.bind]
      rw [ih]
      simp [ReadEntry.nodes, Nat.mul_add, List.range'_succ, Nat.add_assoc]

theorem pairUp_range' (start n : Nat) :
    pairUp (List.range' start (2 * n)) = pairsFrom start n := by
  induction n generalizing start with
  | zero => rfl
  | succ n ih => rw [Nat.mul_add, List.range'_succ, List.range'_succ, pairUp, ih, pairsFrom]

end Collector

/-- The nodes of a whole document. -/
def documentNodes (es : List ReadEntry) : List Node :=
  ⟨.map, .mapping (pairsFrom 1 es.length)⟩ :: es.flatMap ReadEntry.nodes

/-- **The nodes of a written document.** -/
theorem graph_write (es : List ReadEntry) :
    Graph.ofEvents (documentEvents es) = .ok ⟨(documentNodes es).toArray, some 0⟩ := by
  have hstart : [.streamStart, .documentStart, .mappingStart .none].foldlM Collector.step .start =
      .ok (Collector.inside [⟨.map, .mapping []⟩] []) := rfl
  have hall : (documentEvents es).items.foldlM Collector.step .start = .ok
      { nodes := (documentNodes es).toArray
        root := some 0
        anchors := []
        path := []
        ended := true } := by
    rw [documentEvents, List.foldlM_append, List.foldlM_append, hstart]
    simp only [bind, Except.bind, Collector.foldlM_entries]
    simp [Collector.step, Collector.close, Collector.inside, Collector.place,
      Collector.pairUp_range', documentNodes, bind, Except.bind, pure, Except.pure]
  have hlast : (documentEvents es).items.getLast? = some .streamEnd := by
    rw [documentEvents, List.getLast?_append]
    rfl
  rw [Graph.ofEvents, hall]
  simp [hlast, bind, Except.bind, pure, Except.pure]

end EntryTemplates.Document
