/-
**Documents without aliases as trees.**

Without anchors and aliases every node of a document stands in one place, and what a node means
depends on nothing but what stands below it.  A scalar has the value of its text under its tag.  A
collection has parts, which have values of their own, and is put together from these; in a mapping
merge keys are resolved first.

Main definitions:

* `EntryTemplates.Document.Tree` — a node with everything below it;
* `EntryTemplates.Document.Tree.flat?` — the entries of a mapping with merge keys resolved;
* `EntryTemplates.Document.Tree.parts?` — the parts of a collection, and how they are put together;
* `EntryTemplates.Document.Tree.datum?` — **the value of a node**, if it has one.

Main results:

* `EntryTemplates.Document.Tree.sizeOfAll_parts` — parts of a collection are smaller than the whole;
* `EntryTemplates.Document.Tree.datum?_collection` — the value of a collection.
-/

import EntryTemplates.Document.Load
import Mathlib.Data.List.Basic

set_option relaxedAutoImplicit false
set_option autoImplicit false

namespace EntryTemplates.Document

/-! ### Lists of what is there -/

section Lists

variable {α β : Type} {f : α → Option β} {a : α} {as : List α} {bs : List β}

theorem mapM_cons_eq_some : (a :: as).mapM f = some bs ↔
    ∃ b more, f a = some b ∧ as.mapM f = some more ∧ bs = b :: more := by
  rw [List.mapM_cons]
  constructor
  · intro h
    obtain ⟨b, hb, h⟩ := Option.bind_eq_some_iff.1 h
    obtain ⟨more, hmore, h⟩ := Option.bind_eq_some_iff.1 h
    exact ⟨b, more, hb, hmore, (Option.some.inj h).symm⟩
  · rintro ⟨b, more, hb, hmore, rfl⟩
    rw [hb, hmore]
    rfl

theorem isSome_mapM_cons : ((a :: as).mapM f).isSome ↔ (f a).isSome ∧ (as.mapM f).isSome := by
  simp only [Option.isSome_iff_exists, mapM_cons_eq_some]
  exact ⟨fun ⟨_, b, more, hb, hmore, _⟩ => ⟨⟨b, hb⟩, more, hmore⟩,
    fun ⟨⟨b, hb⟩, more, hmore⟩ => ⟨_, b, more, hb, hmore, rfl⟩⟩

theorem isSome_mapM : (as.mapM f).isSome ↔ ∀ a ∈ as, (f a).isSome := by
  induction as with
  | nil => simp
  | cons a as ih => rw [isSome_mapM_cons, ih, List.forall_mem_cons]

end Lists

/-! ### Trees -/

/-- A node with everything below it. -/
inductive Tree where
  | scalar (tag : Tag) (text : String)
  | sequence (tag : Tag) (items : List Tree)
  | mapping (tag : Tag) (entries : List (Tree × Tree))

namespace Tree

/-- The tag of the node. -/
def tag : Tree → Tag
  | .scalar tag _ => tag
  | .sequence tag _ => tag
  | .mapping tag _ => tag

/-- The same node under another tag. -/
def withTag (tag : Tag) : Tree → Tree
  | .scalar _ text => .scalar tag text
  | .sequence _ items => .sequence tag items
  | .mapping _ entries => .mapping tag entries

/-! ### Sizes -/

mutual

/-- The number of nodes. -/
def size : Tree → Nat
  | .scalar _ _ => 1
  | .sequence _ items => sizeOfAll items + 1
  | .mapping _ entries => sizeOfEntries entries + 1

/-- The number of nodes in several trees. -/
def sizeOfAll : List Tree → Nat
  | [] => 0
  | t :: ts => t.size + sizeOfAll ts

/-- The number of nodes in the entries of a mapping. -/
def sizeOfEntries : List (Tree × Tree) → Nat
  | [] => 0
  | (key, value) :: entries => key.size + value.size + sizeOfEntries entries

end

/-! ### Texts and scalars -/

mutual

/-- The text of a node: a mapping may have a key that marks its text. -/
def text? : Tree → Option String
  | .scalar _ text => some text
  | .sequence _ _ => none
  | .mapping _ entries => textOfEntries? entries

/-- The text that a key marks. -/
def textOfEntries? : List (Tree × Tree) → Option String
  | [] => none
  | (key, value) :: entries => if key.tag = .value then value.text? else textOfEntries? entries

end

/-- Whether the node is a scalar. -/
def isScalar : Tree → Bool
  | .scalar _ _ => true
  | _ => false

/-- Whether the node is a mapping. -/
def isMapping : Tree → Bool
  | .mapping _ _ => true
  | _ => false

end Tree

/-- The value of a text under a tag; only scalars can be moments. -/
def valueOf (tag : Tag) (isScalar : Bool) (text : String) : Except Failure Datum :=
  let s := text.toList
  match tag with
  | .null => .ok .null
  | .bool => (boolValue s).map .bool
  | .int => (intValue s).map .int
  | .float => (floatValue s).map .float
  | .binary => (binaryValue s).map .bytes
  | .timestamp => if isScalar then momentValue s else .error .momentOfMapping
  | _ => .ok (.text text)

/-- Whether nodes under the tag are collections. -/
def Tag.isCollection : Tag → Bool
  | .seq | .orderedMap | .pairs | .map | .set => true
  | _ => false

namespace Tree

/-- The object that is there as soon as the node is met. -/
def begun? (t : Tree) : Option Object :=
  match t.tag with
  | .seq => some (.list [])
  | .orderedMap | .pairs => some (.pairs [])
  | .map => some (.map [])
  | .set => some (.set [])
  | .merge | .value | .other => none
  | tag => t.text?.bind fun text => (valueOf tag t.isScalar text).toOption.map .scalar

/-- The value of a node that can be a key. -/
def key? (t : Tree) : Option Datum :=
  match t.begun? with
  | some (.scalar d) => some d
  | _ => none

/-! ### Merge keys -/

/-- A key of the mapping's own: a key that marks a text is a text here. -/
def ownKey (key : Tree) : Tree := if key.tag = .value then key.withTag .str else key

mutual

/-- The entries of a mapping: those that merge keys bring into it, and those of its own. -/
def flat? : List (Tree × Tree) → Option (List (Tree × Tree) × List (Tree × Tree))
  | [] => some ([], [])
  | (key, value) :: entries =>
      if key.tag = .merge then do
        let brought ← value.brought?
        let (merged, own) ← flat? entries
        some (brought ++ merged, own)
      else do
        let (merged, own) ← flat? entries
        some (merged, (key.ownKey, value) :: own)

/-- The entries that a merge key with this value brings. -/
def brought? : Tree → Option (List (Tree × Tree))
  | .scalar _ _ => none
  | .sequence _ items => allBrought? items
  | .mapping _ entries => do
      let (merged, own) ← flat? entries
      some (merged ++ own)

/-- The entries of several mappings, the last one first. -/
def allBrought? : List Tree → Option (List (Tree × Tree))
  | .mapping _ entries :: items => do
      let (merged, own) ← flat? entries
      let more ← allBrought? items
      some (more ++ (merged ++ own))
  | [] => some []
  | _ => none

end

section Flat

variable {key value : Tree} {entries merged own brought : List (Tree × Tree)} {items : List Tree}

theorem flat?_merge (hkey : key.tag = .merge) :
    flat? ((key, value) :: entries) = some (merged, own) ↔
      ∃ brought more, value.brought? = some brought ∧ flat? entries = some (more, own) ∧
        merged = brought ++ more := by
  rw [flat?, if_pos hkey]
  constructor
  · intro h
    obtain ⟨brought, hbrought, h⟩ := Option.bind_eq_some_iff.1 h
    obtain ⟨⟨more, own'⟩, hrest, h⟩ := Option.bind_eq_some_iff.1 h
    obtain ⟨rfl, rfl⟩ := Prod.mk.inj (Option.some.inj h)
    exact ⟨brought, more, hbrought, hrest, rfl⟩
  · rintro ⟨brought, more, hbrought, hrest, rfl⟩
    rw [hbrought, hrest]
    rfl

theorem flat?_own (hkey : key.tag ≠ .merge) :
    flat? ((key, value) :: entries) = some (merged, own) ↔
      ∃ more, flat? entries = some (merged, more) ∧ own = (key.ownKey, value) :: more := by
  rw [flat?, if_neg hkey]
  constructor
  · intro h
    obtain ⟨⟨merged', more⟩, hrest, h⟩ := Option.bind_eq_some_iff.1 h
    obtain ⟨rfl, rfl⟩ := Prod.mk.inj (Option.some.inj h)
    exact ⟨more, hrest, rfl⟩
  · rintro ⟨more, hrest, rfl⟩
    rw [hrest]
    rfl

theorem isSome_flat?_merge (hkey : key.tag = .merge) :
    (flat? ((key, value) :: entries)).isSome ↔ value.brought?.isSome ∧ (flat? entries).isSome := by
  rw [flat?, if_pos hkey]
  cases value.brought? <;> cases flat? entries <;> simp

theorem isSome_flat?_own (hkey : key.tag ≠ .merge) :
    (flat? ((key, value) :: entries)).isSome ↔ (flat? entries).isSome := by
  rw [flat?, if_neg hkey]
  cases flat? entries <;> simp

theorem isSome_brought?_mapping {tag : Tag} :
    (Tree.mapping tag entries).brought?.isSome ↔ (flat? entries).isSome := by
  rw [brought?]
  cases flat? entries <;> simp

theorem brought?_mapping {tag : Tag} : (Tree.mapping tag entries).brought? = some brought ↔
    ∃ merged own, flat? entries = some (merged, own) ∧ brought = merged ++ own := by
  rw [brought?]
  constructor
  · intro h
    obtain ⟨⟨merged, own⟩, hflat, h⟩ := Option.bind_eq_some_iff.1 h
    exact ⟨merged, own, hflat, (Option.some.inj h).symm⟩
  · rintro ⟨merged, own, hflat, rfl⟩
    rw [hflat]
    rfl

theorem allBrought?_cons {item : Tree} : allBrought? (item :: items) = some brought ↔
    ∃ first rest, item.isMapping ∧ item.brought? = some first ∧ allBrought? items = some rest ∧
      brought = rest ++ first := by
  cases item with
  | scalar => simp [allBrought?, isMapping]
  | sequence => simp [allBrought?, isMapping]
  | mapping tag entries =>
      rw [allBrought?]
      constructor
      · intro h
        obtain ⟨⟨merged, own⟩, hflat, h⟩ := Option.bind_eq_some_iff.1 h
        obtain ⟨rest, hrest, h⟩ := Option.bind_eq_some_iff.1 h
        exact ⟨merged ++ own, rest, rfl, brought?_mapping.2 ⟨merged, own, hflat, rfl⟩, hrest,
          (Option.some.inj h).symm⟩
      · rintro ⟨first, rest, -, hfirst, hrest, rfl⟩
        obtain ⟨merged, own, hflat, rfl⟩ := brought?_mapping.1 hfirst
        rw [hflat, hrest]
        rfl

theorem isSome_allBrought?_cons {item : Tree} : (allBrought? (item :: items)).isSome ↔
    (item.isMapping ∧ item.brought?.isSome) ∧ (allBrought? items).isSome := by
  simp only [Option.isSome_iff_exists, allBrought?_cons]
  constructor
  · rintro ⟨_, first, rest, hmapping, hfirst, hrest, -⟩
    exact ⟨⟨hmapping, first, hfirst⟩, rest, hrest⟩
  · rintro ⟨⟨hmapping, first, hfirst⟩, rest, hrest⟩
    exact ⟨_, first, rest, hmapping, hfirst, hrest, rfl⟩

end Flat

/-! ### Collections -/

end Tree

/-- Values put under their keys one after the other, behind those that are there. -/
def putAfter {α : Type} (filled entries : List (Datum × α)) : List (Datum × α) :=
  entries.foldl (fun filled (key, value) => putEntry key value filled) filled

/-- How a collection is put together; mappings and sets have the keys of their parts. -/
inductive Kind where
  | list
  | pairs
  | map (keys : List Datum)
  | set (keys : List Datum)

namespace Kind

/-- The object of a collection with the numbers of its parts. -/
def object (numbers : List Nat) : Kind → Object
  | .list => .list numbers
  | .pairs => .pairs (Collector.pairUp numbers)
  | .map keys => .map (putAfter [] (keys.zip numbers))
  | .set keys => .set ((putAfter [] (keys.zip numbers)).map Prod.fst)

/-- The value of a collection with the values of its parts. -/
def whole (values : List Datum) : Kind → Datum
  | .list => .list values
  | .pairs => .list ((Collector.pairUp values).map fun (first, second) => .tuple [first, second])
  | .map keys => .map (putAfter [] (keys.zip values))
  | .set keys => .set ((putAfter [] (keys.zip values)).map Prod.fst)

end Kind

/-- The parts of a collection, and how they are put together. -/
structure Parts where
  kind : Kind
  trees : List Tree

namespace Tree

/-- The entry of a mapping that has no other one. -/
def single? : Tree → Option (Tree × Tree)
  | .mapping _ [entry] => some entry
  | _ => none

/-- The keys of some entries. -/
def keysOf? (entries : List (Tree × Tree)) : Option (List Datum) :=
  entries.mapM fun entry => entry.1.key?

/-- The parts of a mapping are the values of its entries. -/
def valueParts? (kind : List Datum → Kind) (t : Tree) : Option Parts := do
  let entries ← t.brought?
  let keys ← keysOf? entries
  some ⟨kind keys, entries.map Prod.snd⟩

/-- The parts of a sequence of pairs are the keys and values of these. -/
def pairParts? (items : List Tree) : Option Parts :=
  (items.mapM single?).map fun pairs => ⟨.pairs, pairs.flatMap fun entry => [entry.1, entry.2]⟩

/-- The parts of a collection. -/
def parts? : Tree → Option Parts
  | .sequence .seq items => some ⟨.list, items⟩
  | .sequence .orderedMap items => pairParts? items
  | .sequence .pairs items => pairParts? items
  | .mapping .map entries => valueParts? .map (.mapping .map entries)
  | .mapping .set entries => valueParts? .set (.mapping .set entries)
  | _ => none

/-! ### Parts are smaller -/

theorem size_pos (t : Tree) : 0 < t.size := by
  cases t <;> simp [size]

@[simp] theorem size_withTag (tag : Tag) (t : Tree) : (t.withTag tag).size = t.size := by
  cases t <;> rfl

theorem sizeOfAll_append (ts ts' : List Tree) :
    sizeOfAll (ts ++ ts') = sizeOfAll ts + sizeOfAll ts' := by
  induction ts with
  | nil => simp [sizeOfAll]
  | cons t ts ih => rw [List.cons_append, sizeOfAll, ih, sizeOfAll, Nat.add_assoc]

theorem sizeOfEntries_append (es es' : List (Tree × Tree)) :
    sizeOfEntries (es ++ es') = sizeOfEntries es + sizeOfEntries es' := by
  induction es with
  | nil => simp [sizeOfEntries]
  | cons e es ih =>
      obtain ⟨key, value⟩ := e
      rw [List.cons_append, sizeOfEntries, ih, sizeOfEntries]
      omega

theorem size_le_of_mem {t : Tree} {ts : List Tree} (h : t ∈ ts) : t.size ≤ sizeOfAll ts := by
  induction ts with
  | nil => exact absurd h List.not_mem_nil
  | cons u ts ih =>
      rw [sizeOfAll]
      rcases List.mem_cons.1 h with rfl | h
      · omega
      · have := ih h
        omega

theorem size_ownKey (key : Tree) : key.ownKey.size = key.size := by
  rw [ownKey]
  split
  · exact size_withTag .str key
  · rfl

mutual

/-- **Merge keys make mappings no larger.** -/
theorem sizeOfEntries_flat {entries merged own : List (Tree × Tree)}
    (h : flat? entries = some (merged, own)) :
    sizeOfEntries (merged ++ own) ≤ sizeOfEntries entries := by
  match entries with
  | [] =>
      rw [flat?] at h
      obtain ⟨rfl, rfl⟩ := Prod.mk.inj (Option.some.inj h)
      exact Nat.le_refl _
  | (key, value) :: entries =>
      by_cases hkey : key.tag = .merge
      · obtain ⟨brought, more, hbrought, hrest, rfl⟩ := (flat?_merge hkey).1 h
        have hle := sizeOfEntries_brought hbrought
        have hle' := sizeOfEntries_flat hrest
        rw [List.append_assoc, sizeOfEntries_append, sizeOfEntries]
        omega
      · obtain ⟨more, hrest, rfl⟩ := (flat?_own hkey).1 h
        have hle := sizeOfEntries_flat hrest
        rw [sizeOfEntries_append] at hle ⊢
        rw [sizeOfEntries, sizeOfEntries, size_ownKey]
        omega

theorem sizeOfEntries_brought {value : Tree} {brought : List (Tree × Tree)}
    (h : value.brought? = some brought) : sizeOfEntries brought ≤ value.size := by
  match value with
  | .scalar _ _ => exact absurd h (by simp [brought?])
  | .sequence _ items =>
      rw [brought?] at h
      have hle := sizeOfEntries_allBrought h
      rw [size]
      omega
  | .mapping _ entries =>
      obtain ⟨merged, own, hflat, rfl⟩ := brought?_mapping.1 h
      have hle := sizeOfEntries_flat hflat
      rw [size]
      omega

theorem sizeOfEntries_allBrought {items : List Tree} {brought : List (Tree × Tree)}
    (h : allBrought? items = some brought) : sizeOfEntries brought ≤ sizeOfAll items := by
  match items with
  | [] =>
      rw [allBrought?] at h
      obtain rfl := Option.some.inj h
      exact Nat.le_refl _
  | item :: items =>
      obtain ⟨first, rest, -, hfirst, hrest, rfl⟩ := allBrought?_cons.1 h
      have hle := sizeOfEntries_brought hfirst
      have hle' := sizeOfEntries_allBrought hrest
      rw [sizeOfEntries_append, sizeOfAll]
      omega

end

theorem sizeOfAll_values (entries : List (Tree × Tree)) :
    sizeOfAll (entries.map Prod.snd) ≤ sizeOfEntries entries := by
  induction entries with
  | nil => exact Nat.le_refl _
  | cons entry entries ih =>
      rw [List.map_cons, sizeOfAll, sizeOfEntries]
      omega

theorem sizeOfAll_pairs {items : List Tree} {pairs : List (Tree × Tree)}
    (h : items.mapM single? = some pairs) :
    sizeOfAll (pairs.flatMap fun entry => [entry.1, entry.2]) ≤ sizeOfAll items := by
  induction items generalizing pairs with
  | nil =>
      obtain rfl : [] = pairs := by simpa using h
      exact Nat.le_refl _
  | cons item items ih =>
      obtain ⟨⟨key, value⟩, more, hsingle, hmore, rfl⟩ := mapM_cons_eq_some.1 h
      have hle := ih hmore
      have hitem : key.size + value.size < item.size := by
        rw [single?.eq_def] at hsingle
        split at hsingle
        · obtain rfl := Option.some.inj hsingle
          simp only [size, sizeOfEntries]
          omega
        · cases hsingle
      simp only [List.flatMap_cons, sizeOfAll_append, sizeOfAll]
      omega

/-- **The parts of a collection are smaller than the whole.** -/
theorem sizeOfAll_parts {t : Tree} {parts : Parts} (h : t.parts? = some parts) :
    sizeOfAll parts.trees < t.size := by
  have hmapping : ∀ {tag : Tag} {entries : List (Tree × Tree)} {kind : List Datum → Kind},
      valueParts? kind (.mapping tag entries) = some parts →
      sizeOfAll parts.trees ≤ sizeOfEntries entries := by
    intro tag entries kind h
    obtain ⟨brought, hbrought, h⟩ := Option.bind_eq_some_iff.1 h
    obtain ⟨keys, -, h⟩ := Option.bind_eq_some_iff.1 h
    obtain rfl := Option.some.inj h
    obtain ⟨merged, own, hflat, rfl⟩ := brought?_mapping.1 hbrought
    exact Nat.le_trans (sizeOfAll_values _) (sizeOfEntries_flat hflat)
  have hpairs : ∀ {items : List Tree}, pairParts? items = some parts →
      sizeOfAll parts.trees ≤ sizeOfAll items := by
    intro items h
    obtain ⟨pairs, hpairs, rfl⟩ := Option.map_eq_some_iff.1 h
    exact sizeOfAll_pairs hpairs
  rw [parts?.eq_def] at h
  split at h
  · obtain rfl := Option.some.inj h
    simp only [size]
    omega
  · have hle := hpairs h
    simp only [size]
    omega
  · have hle := hpairs h
    simp only [size]
    omega
  · have hle := hmapping h
    simp only [size]
    omega
  · have hle := hmapping h
    simp only [size]
    omega
  · cases h

/-! ### Values -/

/-- **The value of a node**, if it has one: every part of a collection must have a value. -/
def datum? (t : Tree) : Option Datum :=
  if t.tag.isCollection then
    match _h : t.parts? with
    | none => none
    | some parts =>
        (parts.trees.attach.mapM fun (part : { t // t ∈ parts.trees }) => part.1.datum?).map
          fun values => parts.kind.whole values
  else t.key?
termination_by t.size
decreasing_by exact Nat.lt_of_le_of_lt (size_le_of_mem part.2) (sizeOfAll_parts _h)

theorem datum?_scalar {t : Tree} (h : t.tag.isCollection = false) : t.datum? = t.key? := by
  rw [datum?, if_neg (by simp [h])]

theorem datum?_collection {t : Tree} (h : t.tag.isCollection = true) :
    t.datum? = t.parts?.bind fun parts =>
      (parts.trees.mapM datum?).map fun values => parts.kind.whole values := by
  have hattach : ∀ trees : List Tree,
      (trees.attach.mapM fun (part : { t // t ∈ trees }) => part.1.datum?) =
        trees.mapM datum? := by
    intro trees
    rw [List.mapM_subtype fun _ _ => rfl, List.unattach_attach]
  rw [datum?, if_pos h]
  split
  · rename_i hparts
    rw [hparts]
    rfl
  · rename_i parts hparts
    rw [hparts, hattach, Option.bind_some]

end Tree

end EntryTemplates.Document
