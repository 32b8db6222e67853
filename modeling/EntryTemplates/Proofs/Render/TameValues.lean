/-
**Questions about tame values.**

Tame values can be printed and compared for equality, and their parts are tame again; none of this
comes to a mishap.

Main results:

* `EntryTemplates.Render.settled_equals` — **tests for equality**;
* `EntryTemplates.Render.settles_printed` — **every tame value can be printed**, unless it is
  undefined;
* `EntryTemplates.Render.settles_member`, `EntryTemplates.Render.settles_item` — **parts of values**.
-/

import EntryTemplates.Proofs.Render.Settled

set_option relaxedAutoImplicit false
set_option autoImplicit false

namespace EntryTemplates.Render

open Value

/-! ### Truth and texts -/

theorem settled_isTrue {v : Value} (h : v.IsTame) : Settled (fun _ => True) v.isTrue := by
  cases v with
  | undefined message isStrict =>
      cases isStrict
      · exact .ok _ trivial
      · exact .of_written h
  | _ => exact .ok _ trivial

theorem written_asText {d : Datum} (h : IsWritten d.shown) : IsWritten d.asText := by
  cases d with
  | text s => exact ⟨s, rfl⟩
  | loose t => exact ⟨_, rfl⟩
  | date year month day => exact ⟨_, rfl⟩
  | moment m => exact ⟨_, rfl⟩
  | _ => exact h

theorem settled_asText {describe : Nat → Wording} (hdescribe : ∀ n, IsWritten (describe n))
    {v : Value} (h : v.IsTame) : Settled (fun _ => True) (v.asText describe) := by
  have hshown : Settled (fun _ => True) ((v.shown describe).mapError Failure.tooLong) := by
    obtain ⟨s, hs⟩ := h.shown hdescribe
    rw [hs]
    exact .ok s trivial
  cases v with
  | undefined message isStrict =>
      cases isStrict
      · exact .ok _ trivial
      · exact .of_written h
  | text s isSafe => exact .ok s trivial
  | datum d =>
      obtain ⟨s, hs⟩ := written_asText h
      rw [asText, hs]
      exact .ok s trivial
  | _ => exact hshown

/-! ### Equality -/

mutual

/-- **Tests for equality settle.** -/
theorem settled_equals {a b : Value} (ha : a.IsTame) (hb : b.IsTame) :
    Settled (fun _ => True) (a.equals b) := by
  unfold equals
  split
  -- first what is decided by the kinds of the values
  all_goals first
    | exact .ok _ trivial
    | exact .of_written ha
    | exact .of_written hb
    | skip
  · exact settled_equalItems ha hb
  · exact settled_equalItems ha hb
  · split
    · exact settled_equalEntries ha hb
    · exact .ok _ trivial
  · exact ha.elim

theorem settled_equalItems {xs ys : List Value} (hxs : AreTame xs) (hys : AreTame ys) :
    Settled (fun _ => True) (equalItems xs ys) := by
  unfold equalItems
  split
  · exact .ok _ trivial
  · refine (settled_equals hxs.1 hys.1).bind fun b _ => ?_
    cases b
    · exact .ok _ trivial
    · exact settled_equalItems hxs.2 hys.2
  · exact .ok _ trivial

theorem settled_equalEntries {xs ys : List (Value × Value)} (hxs : AreTameEntries xs)
    (hys : AreTameEntries ys) : Settled (fun _ => True) (equalEntries xs ys) := by
  unfold equalEntries
  split
  · exact .ok _ trivial
  · refine (settled_equalEntry hxs.1 hxs.2.1 hys).bind fun b _ => ?_
    cases b
    · exact .ok _ trivial
    · exact settled_equalEntries hxs.2.2 hys

theorem settled_equalEntry {k v : Value} (hk : k.IsTame) (hv : v.IsTame)
    {xs : List (Value × Value)} (hxs : AreTameEntries xs) :
    Settled (fun _ => True) (equalEntry k v xs) := by
  unfold equalEntry
  split
  · exact .ok _ trivial
  · refine (settled_equals hk hxs.1).bind fun b _ => ?_
    cases b
    · exact settled_equalEntry hk hv hxs.2.2
    · exact settled_equals hv hxs.2.1

end

theorem settled_compare (typeOf : Nat → String) {c : Comparison} (hc : c = .equal ∨ c = .notEqual)
    {a b : Value} (ha : a.IsTame) (hb : b.IsTame) :
    Settled (fun _ => True) (Value.compare typeOf c a b) := by
  obtain rfl | rfl := hc
  · exact settled_equals ha hb
  · exact (settled_equals ha hb).map fun _ _ => trivial

/-! ### Printing -/

theorem settles_text {v : Value} (h : v.IsTame) : (Eval.text v).Settles fun _ => True :=
  Eval.settles_get.bind fun _ hm => Eval.settles_lift (settled_asText hm.describe h)

theorem settles_escaped {v : Value} (h : v.IsTame) : (Eval.escaped v).Settles fun _ => True := by
  unfold Eval.escaped
  split
  · exact Eval.settles_pure trivial
  · exact (settles_text h).bind fun _ _ => Eval.settles_pure trivial

/-- **Every tame value can be printed**, unless it is undefined. -/
theorem settles_printed {v : Value} (h : v.IsTame) : (Eval.printed v).Settles fun _ => True :=
  Eval.settles_get.bind fun _ _ => (settles_escaped h).ite (settles_text h)

theorem settles_made (s : String) : (Eval.made s).Settles Value.IsTame :=
  Eval.settles_get.bind fun _ _ => Eval.settles_pure trivial

theorem settles_joined {items : List Value} (h : ∀ v ∈ items, v.IsTame) {mark : Value}
    (hmark : mark.IsTame) : (joined items mark).Settles Value.IsTame := by
  have hsoft : Eval.Settles Value.IsTame (do
      let mark ← Eval.text mark
      return Value.ofString (mark.intercalate (← items.mapM Eval.text))) :=
    (settles_text hmark).bind fun _ _ =>
      (Eval.Settles.mapM fun v hv => settles_text (h v hv)).bind fun _ _ =>
        Eval.settles_pure trivial
  have hescaped : Eval.Settles Value.IsTame (do
      let parts ← items.mapM Eval.escaped
      return Value.text ((← Eval.escaped mark).intercalate parts) true) :=
    (Eval.Settles.mapM fun v hv => settles_escaped (h v hv)).bind fun _ _ =>
      (settles_escaped hmark).bind fun _ _ => Eval.settles_pure trivial
  exact Eval.settles_get.bind fun m _ => (hescaped.ite hsoft).ite hsoft

/-! ### Parts -/

/-- What may be found is tame. -/
abbrev IsTameIfAny (found : Option Value) : Prop := ∀ v ∈ found, v.IsTame

theorem isTameIfAny_none : IsTameIfAny none := fun _ hmem => nomatch hmem

theorem isTameIfAny_some {v : Value} (h : v.IsTame) : IsTameIfAny (some v) := by
  rintro w ⟨⟩
  exact h

theorem settled_lookup {key : Value} (hkey : key.IsTame) {entries : List (Value × Value)}
    (h : AreTameEntries entries) : Settled IsTameIfAny (lookup? key entries) := by
  induction entries with
  | nil => exact .ok _ isTameIfAny_none
  | cons entry entries ih =>
      obtain ⟨k, v⟩ := entry
      refine (settled_equals h.1 hkey).bind fun b _ => ?_
      cases b
      · exact ih h.2.2
      · exact .ok _ (isTameIfAny_some h.2.1)

mutual

/-- The message about a key that is undefined is written. -/
theorem isWritten_of_ensureKey {typeOf : Nat → String} {v : Value} {message : Wording}
    (hv : v.IsTame) (h : v.ensureKey typeOf = .error (.undefined message)) :
    IsWritten message := by
  unfold ensureKey at h
  split at h
  · cases h
    exact hv
  · exact isWritten_of_ensureKeys hv h
  all_goals cases h

theorem isWritten_of_ensureKeys {typeOf : Nat → String} {vs : List Value} {message : Wording}
    (hvs : AreTame vs) (h : ensureKeys typeOf vs = .error (.undefined message)) :
    IsWritten message := by
  cases vs with
  | nil => cases h
  | cons v vs =>
      rw [ensureKeys] at h
      cases hkey : v.ensureKey typeOf with
      | ok _ =>
          rw [hkey] at h
          exact isWritten_of_ensureKeys hvs.2 h
      | error e =>
          rw [hkey] at h
          cases h
          exact isWritten_of_ensureKey hvs.1 hkey

end

/-- What an index means is tame if every item is; a slice is no tame index. -/
theorem isTameIfAny_parts {α : Type} {items : List α} {one : α → Value}
    (h : ∀ a ∈ items, (one a).IsTame) {index : Value} (hindex : index.IsTame)
    (many : List α → Value) : IsTameIfAny (parts? items index one many) := by
  unfold parts?
  split
  · exact hindex.elim
  · intro v hv
    obtain ⟨i, -, hv⟩ := Option.bind_eq_some_iff.1 hv
    obtain ⟨k, -, hv⟩ := Option.bind_eq_some_iff.1 hv
    obtain ⟨a, ha, hv⟩ := Option.bind_eq_some_iff.1 hv
    obtain rfl := Option.some.inj hv
    exact h a (List.mem_of_getElem? ha)

theorem settled_itemOf {v index : Value} (hv : v.IsTame) (hindex : index.IsTame) :
    Settled IsTameIfAny (v.itemOf? index) := by
  unfold itemOf?
  split
  · split
    · exact settled_lookup hindex hv
    · rename_i message hkey
      exact .of_written (isWritten_of_ensureKey hindex hkey)
    · exact .ok _ isTameIfAny_none
  · exact .ok _ (isTameIfAny_parts (areTame_iff.1 hv) hindex _)
  · exact .ok _ (isTameIfAny_parts (areTame_iff.1 hv) hindex _)
  · refine .ok _ (isTameIfAny_parts ?_ hindex _)
    exact fun _ _ => trivial
  · exact hv.elim
  · exact .ok _ isTameIfAny_none

/-! ### Attributes -/

theorem settled_attribute {o : Object} (ho : o.IsTame) (number : Nat) (name : String) :
    Settled IsTameIfAny (o.attribute? number name) := by
  cases o with
  | procedure f =>
      refine .ok _ ?_
      unfold Macro.attribute?
      split
      · cases f.name <;> exact isTameIfAny_some trivial
      · refine isTameIfAny_some (areTame_iff.2 fun v hv => ?_)
        obtain ⟨p, -, rfl⟩ := List.mem_map.1 hv
        trivial
      · exact isTameIfAny_some trivial
      · exact isTameIfAny_some trivial
      · exact isTameIfAny_some trivial
      · exact isTameIfAny_none
  | blocks => exact .ok _ isTameIfAny_none
  | block blockName =>
      refine .ok _ ?_
      split
      · exact isTameIfAny_some trivial
      · exact isTameIfAny_none
  | _ => exact ho.elim

theorem isTame_int {v : Value} {i : Int} (hv : v.IsTame) (hi : v.int? = some i) :
    (Value.int i).IsTame := by
  cases v with
  | bool b =>
      obtain rfl := Option.some.inj hi
      cases b <;> exact ⟨_, rfl⟩
  | int j =>
      obtain rfl := Option.some.inj hi
      exact hv
  | _ => cases hi

theorem settles_member? {v : Value} (hv : v.IsTame) (name : String) :
    (member? v name).Settles IsTameIfAny := by
  have hmethod (w : Value) : Eval.Settles IsTameIfAny
      (pure (if hasMethod w name then some (Value.method w name) else none)) := by
    refine Eval.settles_pure ?_
    split
    · exact isTameIfAny_some trivial
    · exact isTameIfAny_none
  unfold member?
  split
  · exact Eval.settles_missing hv
  · refine (Eval.settles_object? _).bind fun found hfound => ?_
    cases found with
    | none => exact Eval.settles_pure isTameIfAny_none
    | some o => exact Eval.settles_lift (settled_attribute (hfound o rfl) _ name)
  · split
    · exact Eval.settles_pure (isTameIfAny_some hv.1)
    · exact Eval.settles_pure (isTameIfAny_some hv.2.1)
    · exact hmethod _
  · exact hv.elim
  · split
    · exact Eval.settles_pure (isTameIfAny_some trivial)
    · split
      -- a number is its own real part and numerator
      · rename_i i hi _
        exact Eval.settles_pure (isTameIfAny_some (isTame_int hv hi))
      · rename_i i hi _
        exact Eval.settles_pure (isTameIfAny_some (isTame_int hv hi))
      · exact Eval.settles_pure (isTameIfAny_some ⟨_, rfl⟩)
      · exact Eval.settles_pure (isTameIfAny_some ⟨_, rfl⟩)
      · split
        · exact Eval.settles_pure (isTameIfAny_some trivial)
        · exact Eval.settles_pure isTameIfAny_none
      · split
        · exact Eval.settles_pure (isTameIfAny_some trivial)
        · exact Eval.settles_pure isTameIfAny_none
      · exact Eval.settles_pure isTameIfAny_none

theorem settles_held? {v index : Value} (hv : v.IsTame) (hindex : index.IsTame) :
    (held? v index).Settles IsTameIfAny := by
  have hblock (name : String) : (Object.block name).IsTame := trivial
  unfold held?
  split
  · refine (Eval.settles_object? _).bind fun found _ => ?_
    split
    · refine Eval.settles_get.bind fun m _ => ?_
      split
      · exact (Eval.settles_create (hblock _)).bind fun w hw =>
          Eval.settles_pure (isTameIfAny_some hw)
      · exact Eval.settles_pure isTameIfAny_none
    · exact Eval.settles_pure isTameIfAny_none
  · exact Eval.settles_lift (settled_itemOf hv hindex)

/-- The message about a part that is missing is written. -/
theorem settles_missingPart (v : Value) {index : Value} (hindex : index.IsTame) :
    (missingPart v index).Settles Value.IsTame := by
  refine Eval.settles_get.bind fun m hm => ?_
  dsimp only
  split
  · exact Eval.settles_pure ⟨_, rfl⟩
  · exact Eval.settles_pure (isWritten_bind (hindex.shown hm.describe) fun _ => ⟨_, rfl⟩)

/-- **A part of a value**, by a name. -/
theorem settles_member {v : Value} (hv : v.IsTame) (name : String) :
    (member v name).Settles Value.IsTame := by
  have hname : (Value.ofString name).IsTame := trivial
  refine (settles_member? hv name).bind fun found hfound => ?_
  cases found with
  | some part => exact Eval.settles_pure (hfound part rfl)
  | none =>
      refine (settles_held? hv hname).bind fun found hfound => ?_
      cases found with
      | some part => exact Eval.settles_pure (hfound part rfl)
      | none => exact settles_missingPart v hname

/-- **A part of a value**, by an index. -/
theorem settles_item {v index : Value} (hv : v.IsTame) (hindex : index.IsTame) :
    (item v index).Settles Value.IsTame := by
  unfold item
  split
  · exact Eval.settles_missing hv
  · refine (settles_held? hv hindex).bind fun found hfound => ?_
    split
    · exact Eval.settles_pure (hfound _ rfl)
    · split
      · refine (settles_member? hv _).bind fun found hfound => ?_
        split
        · exact Eval.settles_pure (hfound _ rfl)
        · exact settles_missingPart v hindex
      · exact settles_missingPart v hindex

end EntryTemplates.Render
