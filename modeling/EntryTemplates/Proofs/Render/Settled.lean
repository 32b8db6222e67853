/-
**Computations that come to no mishap.**

A name without a value is reported when a template is rendered, while a mishap is not.  A computation
settles if it gives a value or fails for an undefined one, whatever the memory holds, as long as
everything in it can be written: the message about an undefined value may show other values.

Main definitions:

* `EntryTemplates.Render.Value.IsTame`, `EntryTemplates.Render.Memory.IsTame` — what the statements
  come by that are looked at here: data, undefined values and macros, none of which shows a number of
  too many digits;
* `EntryTemplates.Render.Settled` — a value of a kind, or an undefined value;
* `EntryTemplates.Render.Eval.Settles` — computations with such results, which leave the memory tame.

Main results:

* `EntryTemplates.Render.isTame_ofDatum` — data that can be written are tame;
* `EntryTemplates.Render.Value.IsTame.shown` — **a tame value can be written**;
* `EntryTemplates.Render.Eval.Settles.bind`, `Eval.Settles.mapM` — computations one after another.
-/

import EntryTemplates.Proofs.Except
import EntryTemplates.Render

set_option relaxedAutoImplicit false
set_option autoImplicit false

namespace EntryTemplates.Render

/-! ### Values that can be written -/

/-- A text without a number of too many digits. -/
def IsWritten (text : Wording) : Prop := ∃ s, text = .ok s

mutual

/-- Data and what is made of them by taking parts, undefined values, methods and objects, without a
number of too many digits. -/
def Value.IsTame : Value → Prop
  | .undefined message _ => IsWritten message
  | .null => True
  | .bool _ => True
  | .int i => IsWritten (Number.intText i)
  | .float _ => True
  | .text .. => True
  | .list items => Value.AreTame items
  | .tuple items => Value.AreTame items
  | .map entries => Value.AreTameEntries entries
  | .range .. => False
  | .view .. => False
  | .stream _ => False
  | .slice .. => False
  | .method .. => True
  | .builtin _ => True
  | .object _ => True
  | .datum d => IsWritten d.shown

/-- All of several values are tame. -/
def Value.AreTame : List Value → Prop
  | [] => True
  | v :: vs => v.IsTame ∧ Value.AreTame vs

/-- All keys and values of a mapping are tame. -/
def Value.AreTameEntries : List (Value × Value) → Prop
  | [] => True
  | (k, v) :: rest => k.IsTame ∧ v.IsTame ∧ Value.AreTameEntries rest

end

theorem areTame_iff {vs : List Value} : Value.AreTame vs ↔ ∀ v ∈ vs, v.IsTame := by
  induction vs with
  | nil => simp [Value.AreTame]
  | cons v vs ih => rw [Value.AreTame, ih, List.forall_mem_cons]

theorem isWritten_bind {α : Type} {x : Except Number.TooLong α} {f : α → Wording}
    (hx : ∃ a, x = .ok a) (hf : ∀ a, IsWritten (f a)) : IsWritten (x >>= f) := by
  obtain ⟨a, rfl⟩ := hx
  exact hf a

mutual

/-- **A tame value can be written.** -/
theorem Value.IsTame.shown {describe : Nat → Wording} (hdescribe : ∀ n, IsWritten (describe n))
    {v : Value} (h : v.IsTame) : IsWritten (v.shown describe) := by
  cases v with
  | null => exact ⟨_, rfl⟩
  | undefined message isStrict => exact ⟨_, rfl⟩
  | bool b => exact ⟨_, rfl⟩
  | float x => exact ⟨_, rfl⟩
  | text s isSafe => exact ⟨_, rfl⟩
  | method receiver name => exact ⟨_, rfl⟩
  | builtin b => exact ⟨_, rfl⟩
  | int i =>
      rw [Value.IsTame] at h
      rwa [Value.shown]
  | list items =>
      rw [Value.IsTame] at h
      rw [Value.shown]
      exact isWritten_bind (Value.AreTame.shown hdescribe h) fun _ => ⟨_, rfl⟩
  | tuple items =>
      rw [Value.IsTame] at h
      rw [Value.shown]
      exact isWritten_bind (Value.AreTame.shown hdescribe h) fun _ => ⟨_, rfl⟩
  | map entries =>
      rw [Value.IsTame] at h
      rw [Value.shown]
      exact isWritten_bind (Value.AreTameEntries.shown hdescribe h) fun _ => ⟨_, rfl⟩
  | object n =>
      rw [Value.shown]
      exact hdescribe n
  | datum d =>
      rw [Value.IsTame] at h
      rwa [Value.shown]
  | range start stop step => simp [Value.IsTame] at h
  | view kind items => simp [Value.IsTame] at h
  | stream items => simp [Value.IsTame] at h
  | slice start stop step => simp [Value.IsTame] at h

theorem Value.AreTame.shown {describe : Nat → Wording} (hdescribe : ∀ n, IsWritten (describe n))
    {vs : List Value} (h : Value.AreTame vs) :
    ∃ texts, Value.shownAll describe vs = .ok texts := by
  cases vs with
  | nil => exact ⟨_, rfl⟩
  | cons v vs =>
      rw [Value.AreTame] at h
      obtain ⟨s, hs⟩ := Value.IsTame.shown hdescribe h.1
      obtain ⟨texts, htexts⟩ := Value.AreTame.shown hdescribe h.2
      rw [Value.shownAll, hs, htexts]
      exact ⟨_, rfl⟩

theorem Value.AreTameEntries.shown {describe : Nat → Wording}
    (hdescribe : ∀ n, IsWritten (describe n)) {entries : List (Value × Value)}
    (h : Value.AreTameEntries entries) :
    ∃ texts, Value.shownEntries describe entries = .ok texts := by
  rcases entries with _ | ⟨⟨k, v⟩, rest⟩
  · exact ⟨_, rfl⟩
  · rw [Value.AreTameEntries] at h
    obtain ⟨s, hs⟩ := Value.IsTame.shown hdescribe h.1
    obtain ⟨t, ht⟩ := Value.IsTame.shown hdescribe h.2.1
    obtain ⟨texts, htexts⟩ := Value.AreTameEntries.shown hdescribe h.2.2
    rw [Value.shownEntries, hs, ht, htexts]
    exact ⟨_, rfl⟩

end

mutual

/-- **Data that can be written are tame.** -/
theorem isTame_ofDatum {d : Datum} {text : String} (h : d.shown = .ok text) :
    (Value.ofDatum d).IsTame := by
  cases d with
  | null => trivial
  | bool b => trivial
  | float x => trivial
  | text s => trivial
  | int i =>
      rw [Value.ofDatum, Value.IsTame]
      exact ⟨text, h⟩
  | list items =>
      obtain ⟨texts, htexts, -⟩ := Except.bind_eq_ok.1 h
      rw [Value.ofDatum, Value.IsTame]
      exact areTame_ofData htexts
  | tuple items =>
      obtain ⟨texts, htexts, -⟩ := Except.bind_eq_ok.1 h
      rw [Value.ofDatum, Value.IsTame]
      exact areTame_ofData htexts
  | map entries =>
      obtain ⟨texts, htexts, -⟩ := Except.bind_eq_ok.1 h
      rw [Value.ofDatum, Value.IsTame]
      exact areTameEntries_ofEntries htexts
  | loose t => exact ⟨text, h⟩
  | bytes bs => exact ⟨text, h⟩
  | date year month day => exact ⟨text, h⟩
  | moment m => exact ⟨text, h⟩
  | set items => exact ⟨text, h⟩
  | again curly => exact ⟨text, h⟩

theorem areTame_ofData {ds : List Datum} {texts : List String} (h : Datum.shownAll ds = .ok texts) :
    Value.AreTame (Value.ofData ds) := by
  cases ds with
  | nil => trivial
  | cons d ds =>
      obtain ⟨text, htext, h⟩ := Except.bind_eq_ok.1 h
      obtain ⟨texts, htexts, -⟩ := Except.bind_eq_ok.1 h
      exact ⟨isTame_ofDatum htext, areTame_ofData htexts⟩

theorem areTameEntries_ofEntries {entries : List (Datum × Datum)} {texts : List String}
    (h : Datum.shownEntries entries = .ok texts) :
    Value.AreTameEntries (Value.ofEntries entries) := by
  rcases entries with _ | ⟨⟨k, v⟩, rest⟩
  · trivial
  · obtain ⟨key, hkey, h⟩ := Except.bind_eq_ok.1 h
    obtain ⟨value, hvalue, h⟩ := Except.bind_eq_ok.1 h
    obtain ⟨texts, htexts, -⟩ := Except.bind_eq_ok.1 h
    exact ⟨isTame_ofDatum hkey, isTame_ofDatum hvalue, areTameEntries_ofEntries htexts⟩

end

/-! ### Memory that can be written -/

/-- Macros and blocks; the other objects hold values. -/
def Object.IsTame : Object → Prop
  | .procedure _ => True
  | .blocks => True
  | .block _ => True
  | _ => False

/-- Names have tame values, and objects are macros and blocks. -/
structure Memory.IsTame (m : Memory) : Prop where
  names : ∀ (i : Nat) (s : Scope), m.scopes[i]? = some s → ∀ entry ∈ s.names, entry.2.IsTame
  objects : ∀ (n : Nat) (o : Object), m.objects[n]? = some o → o.IsTame

namespace Memory.IsTame

variable {m : Memory} (h : m.IsTame)
include h

theorem describe (n : Nat) : IsWritten (m.describe n) := by
  rw [Memory.describe, describeWithin]
  split
  · rename_i l hl
    exact (h.objects n _ hl).elim
  · split <;> exact ⟨_, rfl⟩
  · rename_i entries hentries
    exact (h.objects n _ hentries).elim
  · exact ⟨_, rfl⟩
  · exact ⟨_, rfl⟩
  · exact ⟨_, rfl⟩

/-- What a name is bound to is tame. -/
theorem find? {scope : Nat} {name : String} {v : Value} (hv : m.find? scope name = some v) :
    v.IsTame := by
  rw [Memory.find?] at hv
  -- the number bounds how many scopes lie inside one another
  generalize m.scopes.size + 1 = depth at hv
  induction depth generalizing scope with
  | zero => cases hv
  | succ depth ih =>
      rw [findWithin] at hv
      split at hv
      · rename_i s hs
        split at hv
        · rename_i w hw
          obtain rfl := Option.some.inj hv
          obtain ⟨before, after, hnames, -⟩ := List.lookup_eq_some_iff.1 hw
          exact h.names scope s hs (name, w) (by rw [hnames]; simp)
        · obtain ⟨outer, -, houter⟩ := Option.bind_eq_some_iff.1 hv
          exact ih houter
      · cases hv

theorem bind (scope : Nat) (name : String) {v : Value} (hv : v.IsTame) :
    (m.bind scope name v).IsTame where
  names i s hs entry hentry := by
    rw [Memory.bind, Array.getElem?_modify] at hs
    split at hs
    · obtain ⟨t, ht, rfl⟩ := Option.map_eq_some_iff.1 hs
      obtain rfl | hentry := List.mem_cons.1 hentry
      · exact hv
      · exact h.names i t ht entry hentry
    · exact h.names i s hs entry hentry
  objects := h.objects

theorem opened (outer : Option Nat) : (m.opened outer).2.IsTame where
  names i s hs entry hentry := by
    rw [Memory.opened, Array.getElem?_push] at hs
    split at hs
    · obtain rfl := Option.some.inj hs
      cases hentry
    · exact h.names i s hs entry hentry
  objects := h.objects

theorem add {o : Object} (ho : o.IsTame) : (m.add o).2.IsTame where
  names := h.names
  objects n p hp := by
    rw [Memory.add, Array.getElem?_push] at hp
    split at hp
    · obtain rfl := Option.some.inj hp
      exact ho
    · exact h.objects n p hp

theorem escaping (escapes : Bool) : ({ m with escapes } : Memory).IsTame := ⟨h.names, h.objects⟩

end Memory.IsTame

/-- A value of a kind, or the report on an undefined value. -/
inductive Settled {α : Type} (P : α → Prop) : Except Failure α → Prop where
  | ok (a : α) (h : P a) : Settled P (.ok a)
  | undefined (message : String) : Settled P (.error (.undefined (.ok message)))

namespace Settled

variable {α β : Type} {P : α → Prop} {Q : β → Prop} {x : Except Failure α}
  {f : α → Except Failure β}

theorem bind (hx : Settled P x) (hf : ∀ a, P a → Settled Q (f a)) : Settled Q (x >>= f) := by
  cases hx with
  | ok a h => exact hf a h
  | undefined message => exact .undefined message

theorem map {g : α → β} (hx : Settled P x) (hg : ∀ a, P a → Q (g a)) : Settled Q (x.map g) := by
  cases hx with
  | ok a h => exact .ok (g a) (hg a h)
  | undefined message => exact .undefined message

/-- An undefined value whose message is written. -/
theorem of_written {message : Wording} (h : IsWritten message) :
    Settled P (.error (.undefined message)) := by
  obtain ⟨s, rfl⟩ := h
  exact .undefined s

end Settled

/-! ### Computations -/

namespace Eval

/-- **A computation settles**: with a tame memory it gives a value of a kind and a tame memory, or
fails for an undefined value. -/
def Settles {α : Type} (P : α → Prop) (x : Eval α) : Prop :=
  ∀ m : Memory, m.IsTame → Settled (fun p => P p.1 ∧ p.2.IsTame) (x m)

section Rules

variable {α β : Type} {P : α → Prop} {Q : β → Prop} {x : Eval α} {f : α → Eval β}

theorem settles_pure {a : α} (h : P a) : Settles P (pure a : Eval α) :=
  fun m hm => .ok (a, m) ⟨h, hm⟩

theorem settles_get : Settles Memory.IsTame (get : Eval Memory) := fun m hm => .ok (m, m) ⟨hm, hm⟩

/-- The flag of escaping may be set. -/
theorem settles_modify_escapes (escapes : Bool) :
    Settles (fun _ => True) (modify fun m => { m with escapes } : Eval Unit) :=
  fun _ hm => .ok ((), _) ⟨trivial, hm.escaping escapes⟩

theorem settles_missing {message : Wording} (h : IsWritten message) :
    Settles P (missing message : Eval α) := fun _ _ => Settled.of_written h

theorem settles_lift {r : Except Failure α} (h : Settled P r) : Settles P (liftM r : Eval α) :=
  fun m hm => h.bind fun a ha => .ok (a, m) ⟨ha, hm⟩

theorem settles_openScope (outer : Nat) : Settles (fun _ => True) (openScope outer) :=
  fun _ hm => .ok (_, _) ⟨trivial, hm.opened (some outer)⟩

theorem settles_create {o : Object} (ho : o.IsTame) : Settles Value.IsTame (create o) :=
  fun _ hm => .ok (_, _) ⟨trivial, hm.add ho⟩

theorem settles_bind_name (scope : Nat) (name : String) {v : Value} (hv : v.IsTame) :
    Settles (fun _ => True) (Eval.bind scope name v) :=
  fun _ hm => .ok (_, _) ⟨trivial, hm.bind scope name hv⟩

theorem settles_object? (n : Nat) : Settles (fun o => ∀ p ∈ o, p.IsTame) (object? n) :=
  fun m hm => .ok (_, m) ⟨fun p hp => hm.objects n p hp, hm⟩

/-- **Computations one after another.** -/
theorem Settles.bind (hx : Settles P x) (hf : ∀ a, P a → Settles Q (f a)) : Settles Q (x >>= f) :=
  fun m hm => (hx m hm).bind fun p hp => hf p.1 hp.1 p.2 hp.2

theorem Settles.ite {b : Bool} {y : Eval α} (hx : Settles P x) (hy : Settles P y) :
    Settles P (if b then x else y) := by
  cases b
  · exact hy
  · exact hx

theorem Settles.mapM {l : List α} (h : ∀ a ∈ l, Settles Q (f a)) :
    Settles (fun bs => ∀ b ∈ bs, Q b) (l.mapM f) := by
  induction l with
  | nil =>
      rw [List.mapM_nil]
      exact settles_pure fun _ hmem => absurd hmem List.not_mem_nil
  | cons a l ih =>
      obtain ⟨ha, hl⟩ := List.forall_mem_cons.1 h
      rw [List.mapM_cons]
      exact ha.bind fun b hb => (ih hl).bind fun bs hbs =>
        settles_pure (List.forall_mem_cons.2 ⟨hb, hbs⟩)

theorem Settles.forIn {l : List α} {g : α → Unit → Eval (ForInStep Unit)}
    (h : ∀ a ∈ l, ∀ b, Settles (fun _ => True) (g a b)) (b : Unit) :
    Settles (fun _ => True) (forIn l b g) := by
  induction l generalizing b with
  | nil =>
      rw [List.forIn_nil]
      exact settles_pure trivial
  | cons a l ih =>
      obtain ⟨ha, hl⟩ := List.forall_mem_cons.1 h
      rw [List.forIn_cons]
      refine (ha b).bind fun next _ => ?_
      cases next with
      | done b => exact settles_pure trivial
      | yield b => exact ih hl b

end Rules

end Eval

end EntryTemplates.Render
