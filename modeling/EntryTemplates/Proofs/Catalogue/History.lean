/-
**What a catalogue keeps of the calls that registered templates.**

A call is refused exactly if its key was named before and it must not replace.  A call that is
refused leaves no trace, one that replaces keeps the place, and any other one is put behind the
rest, so the catalogue can be told from the calls alone.

Main definitions:

* `EntryTemplates.Catalogue.Registration` — a call to register a template;
* `EntryTemplates.Catalogue.after` — the catalogue after some calls on an empty one;
* `EntryTemplates.Catalogue.Succeeds` — a call succeeds after others;
* `EntryTemplates.Catalogue.LastFor` — the template of the last call for a key that succeeds.

Main results:

* `EntryTemplates.Catalogue.keysFollow_call` — one call keeps the keys in the order in which they
  were first named;
* `EntryTemplates.Catalogue.find?_after_iff` — under each key stands the template of the last call
  that succeeded;
* `EntryTemplates.Catalogue.calls_kept` — **what a catalogue keeps of any calls**.
-/

import EntryTemplates.Proofs.Catalogue
import Mathlib.Data.List.Dedup
import Mathlib.Data.List.Induction
import Mathlib.Data.List.Nodup

set_option relaxedAutoImplicit false
set_option autoImplicit false

namespace EntryTemplates.Catalogue

/-! ### Calls -/

/-- A call to register a template. -/
structure Registration where
  template : Template
  /-- Whether a template under the same key may be replaced. -/
  replace : Bool
  deriving DecidableEq, Repr

/-- The key of a call. -/
def Registration.key (r : Registration) : Key := r.template.key

/-- The catalogue after a call; one that fails leaves it as it was. -/
def call (c : Catalogue) (r : Registration) : Catalogue :=
  match c.register r.template r.replace with
  | .ok c' => c'
  | .error _ => c

/-- The catalogue after some calls, the first of them on an empty catalogue. -/
def after (calls : List Registration) : Catalogue := calls.foldl call .empty

/-- A call succeeds after others. -/
def Succeeds (before : List Registration) (r : Registration) : Prop :=
  ∃ c, (after before).register r.template r.replace = .ok c

/-- The template of the last call for a key that succeeds. -/
def LastFor (calls : List Registration) (k : Key) (t : Template) : Prop :=
  ∃ before r rest, calls = before ++ r :: rest ∧ r.template = t ∧ r.key = k ∧ Succeeds before r ∧
    ∀ between r' rest', rest = between ++ r' :: rest' → r'.key = k →
      ¬ Succeeds (before ++ r :: between) r'

@[simp] theorem after_nil : after [] = .empty := rfl

theorem after_concat (calls : List Registration) (r : Registration) :
    after (calls ++ [r]) = (after calls).call r := by
  rw [after, List.foldl_append]
  rfl

/-! ### What one call does -/

/-- A call is refused, and leaves no trace, or its template is put into the catalogue. -/
theorem call_cases (c : Catalogue) (r : Registration) :
    (r.key ∈ c.templates.map Template.key ∧ r.replace = false ∧
      c.register r.template r.replace = .error (.duplicate r.key) ∧ c.call r = c) ∨
    (¬ (r.key ∈ c.templates.map Template.key ∧ r.replace = false) ∧
      c.register r.template r.replace = .ok (c.call r) ∧
      c.call r = ⟨put r.template c.templates⟩) := by
  by_cases hrefused : r.key ∈ c.templates.map Template.key ∧ r.replace = false
  · have hregister : c.register r.template r.replace = .error (.duplicate r.key) := by
      rw [register, if_pos ⟨isSome_find?_iff.2 hrefused.1, by simp [hrefused.2]⟩]
      rfl
    exact Or.inl ⟨hrefused.1, hrefused.2, hregister, by rw [call, hregister]⟩
  · have hregister : c.register r.template r.replace = .ok ⟨put r.template c.templates⟩ := by
      rw [register, if_neg]
      rintro ⟨hknown, hreplace⟩
      exact hrefused ⟨isSome_find?_iff.1 hknown, by simpa using hreplace⟩
    have hcall : c.call r = ⟨put r.template c.templates⟩ := by rw [call, hregister]
    exact Or.inr ⟨hrefused, hcall.symm ▸ hregister, hcall⟩

/-- The keys of a catalogue are those that were named, in the order in which each was first named. -/
structure KeysFollow (named : List Key) (keys : List Key) : Prop where
  mem : ∀ k, k ∈ keys ↔ k ∈ named
  order : keys.Pairwise fun a b => named.idxOf a < named.idxOf b

/-- **One call keeps the keys in the order in which they were first named.** -/
theorem keysFollow_call {named : List Key} {c : Catalogue}
    (h : KeysFollow named (c.templates.map Template.key)) (r : Registration) :
    KeysFollow (named ++ [r.key]) ((c.call r).templates.map Template.key) := by
  -- keys that were named already are found where they were
  have hold : (c.templates.map Template.key).Pairwise fun a b =>
      (named ++ [r.key]).idxOf a < (named ++ [r.key]).idxOf b := by
    refine h.order.imp_of_mem fun {a b} ha hb hab => ?_
    rwa [List.idxOf_append_of_mem ((h.mem a).1 ha), List.idxOf_append_of_mem ((h.mem b).1 hb)]
  by_cases hknown : r.key ∈ c.templates.map Template.key
  · have hkeys : (c.call r).templates.map Template.key = c.templates.map Template.key := by
      rcases call_cases c r with ⟨-, -, -, hcall⟩ | ⟨-, -, hcall⟩
      · rw [hcall]
      · rw [hcall]
        exact map_key_put hknown
    rw [hkeys]
    refine ⟨fun k => ?_, hold⟩
    rw [h.mem, List.mem_append, List.mem_singleton]
    exact ⟨Or.inl, fun hk => hk.elim id fun heq => heq ▸ (h.mem _).1 hknown⟩
  · have hkeys : (c.call r).templates.map Template.key =
        c.templates.map Template.key ++ [r.key] := by
      rcases call_cases c r with ⟨hmem, -⟩ | ⟨-, -, hcall⟩
      · exact absurd hmem hknown
      · rw [hcall, put_of_not_mem hknown, List.map_append]
        rfl
    have hnew : r.key ∉ named := fun hmem => hknown ((h.mem _).2 hmem)
    rw [hkeys]
    refine ⟨fun k => ?_, List.pairwise_append.2 ⟨hold, List.pairwise_singleton _ _, ?_⟩⟩
    · rw [List.mem_append, List.mem_append, h.mem]
    · -- the new key is named last
      intro a ha b hb
      obtain rfl := List.mem_singleton.1 hb
      have hmem := (h.mem a).1 ha
      rw [List.idxOf_append_of_mem hmem, List.idxOf_append_of_notMem hnew, List.idxOf_cons_self,
        Nat.add_zero]
      exact List.idxOf_lt_length_iff.2 hmem

/-! ### What all calls do -/

theorem keysFollow_after (calls : List Registration) :
    KeysFollow (calls.map Registration.key) ((after calls).templates.map Template.key) := by
  induction calls using List.reverseRecOn with
  | nil => exact ⟨fun k => Iff.rfl, List.Pairwise.nil⟩
  | append_singleton calls r ih =>
      rw [after_concat, List.map_append]
      exact keysFollow_call ih r

/-- A call that fails leaves no trace. -/
theorem after_of_not_succeeds {before : List Registration} {r : Registration}
    (h : ¬ Succeeds before r) : after (before ++ [r]) = after before := by
  rw [after_concat]
  rcases call_cases (after before) r with ⟨-, -, -, hcall⟩ | ⟨-, hregister, -⟩
  · exact hcall
  · exact absurd ⟨_, hregister⟩ h

theorem find?_after_concat (before : List Registration) (r : Registration) (k : Key)
    [Decidable (Succeeds before r ∧ r.key = k)] :
    (after (before ++ [r])).find? k =
      if Succeeds before r ∧ r.key = k then some r.template else (after before).find? k := by
  by_cases hsucceeds : Succeeds before r
  · rw [after_concat]
    rcases call_cases (after before) r with ⟨-, -, hregister, -⟩ | ⟨-, -, hcall⟩
    · obtain ⟨c, hc⟩ := hsucceeds
      exact absurd (hregister.symm.trans hc) (by simp)
    · have hput : ((after before).call r).find? k =
          if r.key = k then some r.template else (after before).find? k := by
        rw [hcall]
        exact find?_put r.template (after before).templates k
      rw [hput]
      by_cases hk : r.key = k
      · rw [if_pos hk, if_pos ⟨hsucceeds, hk⟩]
      · rw [if_neg hk, if_neg fun h => hk h.2]
  · rw [after_of_not_succeeds hsucceeds, if_neg fun h => hsucceeds h.1]

/-- The last call for a key that succeeds, one call later. -/
theorem lastFor_concat {calls : List Registration} {r : Registration} {k : Key} {t : Template} :
    LastFor (calls ++ [r]) k t ↔
      (Succeeds calls r ∧ r.key = k ∧ r.template = t) ∨
        (¬ (Succeeds calls r ∧ r.key = k) ∧ LastFor calls k t) := by
  constructor
  · rintro ⟨before, r', rest, hcalls, ht, hk, hsucceeds, hlast⟩
    rcases List.eq_nil_or_concat' rest with rfl | ⟨rest, x, rfl⟩
    · obtain ⟨rfl, rfl⟩ := List.append_singleton_inj.1 hcalls
      exact Or.inl ⟨hsucceeds, hk, ht⟩
    · rw [← List.cons_append, ← List.append_assoc] at hcalls
      obtain ⟨rfl, rfl⟩ := List.append_singleton_inj.1 hcalls
      refine Or.inr ⟨fun h => hlast rest r [] (by simp) h.2 h.1,
        before, r', rest, rfl, ht, hk, hsucceeds, fun between r'' rest' hrest => ?_⟩
      exact hlast between r'' (rest' ++ [r]) (by simp [hrest])
  · rintro (⟨hsucceeds, hk, ht⟩ | ⟨hnot, before, r', rest, rfl, ht, hk, hsucceeds, hlast⟩)
    · exact ⟨calls, r, [], rfl, ht, hk, hsucceeds, fun between r' rest' hrest => by simp at hrest⟩
    · refine ⟨before, r', rest ++ [r], by simp, ht, hk, hsucceeds,
        fun between r'' rest' hrest hk'' => ?_⟩
      rcases List.eq_nil_or_concat' rest' with rfl | ⟨rest', x, rfl⟩
      · obtain ⟨rfl, rfl⟩ := List.append_singleton_inj.1 hrest
        exact fun h => hnot ⟨h, hk''⟩
      · rw [← List.cons_append, ← List.append_assoc] at hrest
        exact hlast between r'' rest' (List.append_singleton_inj.1 hrest).1 hk''

/-- **Under each key stands the template of the last call for it that succeeded.** -/
theorem find?_after_iff {calls : List Registration} {k : Key} {t : Template} :
    (after calls).find? k = some t ↔ LastFor calls k t := by
  classical
  induction calls using List.reverseRecOn with
  | nil =>
      refine iff_of_false (by simp [find?, empty]) ?_
      rintro ⟨before, r, rest, hcalls, -⟩
      simp at hcalls
  | append_singleton calls r ih =>
      rw [find?_after_concat, lastFor_concat, ← ih]
      by_cases h : Succeeds calls r ∧ r.key = k
      · simp [h]
      · simp [h, ← and_assoc]

theorem KeysFollow.nodup {named keys : List Key} (h : KeysFollow named keys) : keys.Nodup :=
  h.order.imp fun hlt heq => absurd (heq ▸ hlt) (Nat.lt_irrefl _)

/-- The number of templates is that of the different keys that were named. -/
theorem size_after (calls : List Registration) :
    (after calls).size = (calls.map Registration.key).dedup.length := by
  have hkeys := keysFollow_after calls
  have hperm : ((after calls).templates.map Template.key).Perm
      (calls.map Registration.key).dedup := by
    rw [List.perm_ext_iff_of_nodup hkeys.nodup (List.nodup_dedup _)]
    intro k
    rw [hkeys.mem, List.mem_dedup]
  rw [size, ← hperm.length_eq, List.length_map]

/-- **What a catalogue keeps of any calls.**  A call is refused exactly if its key was named before
and it must not replace, and then it leaves no trace; for each key the last call that succeeded
counts; and the keys that were named are listed once each, in the order in which they were first
named. -/
theorem calls_kept (calls : List Registration) :
    (∀ r : Registration, (after calls).register r.template r.replace =
      if r.key ∈ calls.map Registration.key ∧ r.replace = false then .error (.duplicate r.key)
      else .ok (after (calls ++ [r]))) ∧
    (∀ r : Registration, ¬ Succeeds calls r → after (calls ++ [r]) = after calls) ∧
    (∀ (k : Key) (framework style : Argument), framework.parse = .ok k.framework →
      style.parse = .ok k.style →
      (∀ t, (after calls).get framework style = .ok t ↔ LastFor calls k t) ∧
      ((∃ t, (after calls).get framework style = .ok t) ↔ k ∈ calls.map Registration.key)) ∧
    ∃ listed, (after calls).list .missing .missing = .ok listed ∧
      KeysFollow (calls.map Registration.key) (listed.map Template.key) ∧
      (listed.map Template.key).Nodup ∧
      (∀ t ∈ listed, (after calls).find? t.key = some t) ∧
      (after calls).size = listed.length ∧
      listed.length = (calls.map Registration.key).dedup.length := by
  have hkeys := keysFollow_after calls
  refine ⟨fun r => ?_, fun r => after_of_not_succeeds, fun k framework style hf hs => ?_,
    (after calls).templates, ?_, hkeys, hkeys.nodup, fun t => find?_of_mem hkeys.nodup, rfl,
    size_after calls⟩
  · rw [after_concat]
    rcases call_cases (after calls) r with ⟨hmem, hreplace, hregister, -⟩ | ⟨hfree, hregister, -⟩
    · rw [hregister, if_pos ⟨(hkeys.mem _).1 hmem, hreplace⟩]
    · rw [hregister, if_neg fun h => hfree ⟨(hkeys.mem _).2 h.1, h.2⟩]
  · have hget : ∀ t, (after calls).get framework style = .ok t ↔
        (after calls).find? k = some t := fun t => by
      rw [get_eq_ok]
      constructor
      · rintro ⟨k', hk', hfind⟩
        obtain rfl : k' = k := Except.ok.inj
          ((resolve_eq_ok.2 hk').symm.trans (resolve_eq_ok.2 ⟨hf, hs⟩))
        exact hfind
      · exact fun hfind => ⟨k, ⟨hf, hs⟩, hfind⟩
    refine ⟨fun t => (hget t).trans find?_after_iff, ?_⟩
    simp only [hget]
    rw [← Option.isSome_iff_exists, isSome_find?_iff, hkeys.mem]
  · exact list_missing _

end EntryTemplates.Catalogue
