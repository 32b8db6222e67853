/-
**The texts under which templates are found.**

A framework and a style are read from texts, and a catalogue is asked with texts.  Both accept the
spellings of the names and nothing else, so a catalogue with a template under every key finds one
exactly if both texts are spellings.

Main definitions:

* `EntryTemplates.Argument.ReadsSpellings` — a text is read as the member whose name it spells;
* `EntryTemplates.Catalogue.AcceptsSpellings` — a catalogue finds templates under spellings only.

Main results:

* `EntryTemplates.Argument.readsSpellings` — texts are read as the members whose names they spell;
* `EntryTemplates.Catalogue.acceptsSpellings` — a full catalogue accepts the spellings only;
* `EntryTemplates.Catalogue.spellings_accepted` — **the texts under which templates are found**.
-/

import EntryTemplates.Proofs.Catalogue.Lookups
import EntryTemplates.Proofs.Vocabulary

set_option relaxedAutoImplicit false
set_option autoImplicit false

namespace EntryTemplates

namespace Argument

/-- A text is read as the member of a vocabulary whose name it spells. -/
structure ReadsSpellings (α : Type) [Nameable α] (s : String) : Prop where
  read : ∀ m : α, (Argument.ofString s).parse = .ok m ↔ Spells s (Vocabulary.name m)
  /-- Any other text is rejected, as it is compared. -/
  rejected : (∀ m : α, ¬ Spells s (Vocabulary.name m)) →
    ((Argument.ofString s).parse : Except NoMember α) =
      .error (.unknown ⟨Vocabulary.title α, normalized s⟩)
  /-- A text with a character beyond ASCII that is no white space is always rejected. -/
  beyond : ∀ c ∈ s.toList, 0x80 ≤ c.toNat → Text.isBlank c = false →
    ((Argument.ofString s).parse : Except NoMember α) =
      .error (.unknown ⟨Vocabulary.title α, normalized s⟩)

theorem parse_ofString {α : Type} [Nameable α] (s : String) :
    ((Argument.ofString s).parse : Except NoMember α) =
      (Vocabulary.read s).mapError NoMember.unknown := rfl

/-- Texts are read as the members whose names they spell. -/
theorem readsSpellings {α : Type} [Nameable α] (hplain : Vocabulary.IsPlain α) (s : String) :
    ReadsSpellings α s := by
  have hrejected (h : ∀ m : α, ¬ Spells s (Vocabulary.name m)) :
      ((Argument.ofString s).parse : Except NoMember α) =
        .error (.unknown ⟨Vocabulary.title α, normalized s⟩) := by
    rw [parse_ofString, Vocabulary.read_eq_error hplain h]
    rfl
  refine ⟨fun m => ?_, hrejected, fun _ hc hbeyond hblank => hrejected fun m =>
    not_spells_of_beyond (hplain.mem_nameChars m) hc hbeyond hblank⟩
  rw [parse_ofString, ← Vocabulary.read_eq_ok_iff hplain]
  cases (Vocabulary.read s : Except UnknownName α) <;> simp [Except.mapError]

/-- A capital with a dot above becomes a small letter of ASCII and the dot. -/
example : ((Argument.ofString "AUTO_MAİN").parse : Except NoMember Style) =
    .error (.unknown ⟨"MainStyle", "auto_mai\u0307n"⟩) := by
  decide +kernel

theorem parse_ne_of_not_spells {α : Type} [Nameable α] {s : String} (hreads : ReadsSpellings α s)
    (h : ∀ m : α, ¬ Spells s (Vocabulary.name m)) (m : α) : (Argument.ofString s).parse ≠ .ok m :=
  fun heq => h m ((hreads.read m).1 heq)

end Argument

namespace Catalogue

open Argument (ofString missing readsSpellings parse_ne_of_not_spells)

/-- **A catalogue finds templates under the spellings of names and nothing else**: the first text
is asked for as a framework, the second one as a style. -/
structure AcceptsSpellings (c : Catalogue) (s t : String) : Prop where
  /-- Two spellings lead to the template under the key they spell. -/
  found : ∀ k : Key, Spells s k.framework.name → Spells t k.style.name →
    ∃ u, u.key = k ∧ c.get (ofString s) (ofString t) = .ok u ∧
      c.content (ofString s) (ofString t) = .ok u.content ∧
      c.list (ofString s) (ofString t) = .ok [u] ∧ c.holds [ofString s, ofString t] = true
  /-- If one of them is no spelling, nothing is found. -/
  notFound : (∀ k : Key, ¬ (Spells s k.framework.name ∧ Spells t k.style.name)) →
    c.get (ofString s) (ofString t) = .error (.report (.notFound s t)) ∧
      c.content (ofString s) (ofString t) = .error (.report (.notFound s t)) ∧
      (∃ framework style,
        c.list (ofString s) (ofString t) = .error (.report (.notFound framework style))) ∧
      c.holds [ofString s, ofString t] = false
  /-- The spelling of a framework lists its templates, of which there are some. -/
  ofFramework : ∀ f : Framework, Spells s f.name → ∃ listed, listed ≠ [] ∧
    c.list (ofString s) missing = .ok listed ∧ ∀ u, u ∈ listed ↔ u ∈ c.templates ∧ u.framework = f
  noFramework : (∀ f : Framework, ¬ Spells s f.name) →
    c.list (ofString s) missing = .error (.report (.notFound s Style.autoMain.name))
  /-- The spelling of a style lists its templates, of which there are some. -/
  ofStyle : ∀ x : Style, Spells t x.name → ∃ listed, listed ≠ [] ∧
    c.list missing (ofString t) = .ok listed ∧ ∀ u, u ∈ listed ↔ u ∈ c.templates ∧ u.style = x
  noStyle : (∀ x : Style, ¬ Spells t x.name) →
    c.list missing (ofString t) = .error (.report (.notFound Framework.catch2.name t))

section Full

variable {c : Catalogue} {s t : String}

theorem isUnknown_of_not_spells
    (h : ∀ k : Key, ¬ (Spells s k.framework.name ∧ Spells t k.style.name)) :
    IsUnknown (ofString s) (ofString t) := by
  by_cases hs : ∃ f : Framework, Spells s f.name
  · obtain ⟨f, hf⟩ := hs
    exact Or.inr (parse_ne_of_not_spells (readsSpellings Vocabulary.isPlain_style t)
      fun x hx => h ⟨f, x⟩ ⟨hf, hx⟩)
  · exact Or.inl (parse_ne_of_not_spells (readsSpellings Vocabulary.isPlain_framework s)
      fun f hf => hs ⟨f, hf⟩)

/-- A catalogue with a template under every key accepts the spellings of names only. -/
theorem acceptsSpellings (hfull : ∀ k : Key, k ∈ c.templates.map Template.key)
    (hagree : Agree c (ofString s) (ofString t)) : AcceptsSpellings c s t := by
  have hframework := readsSpellings Vocabulary.isPlain_framework s
  have hstyle := readsSpellings Vocabulary.isPlain_style t
  refine ⟨fun k hs ht => ?_, fun h => ?_, fun f hs => ?_, fun h => ?_, fun x ht => ?_,
    fun h => ?_⟩
  · obtain ⟨u, hu⟩ := Option.isSome_iff_exists.1 (isSome_find?_iff.2 (hfull k))
    have hget : c.get (ofString s) (ofString t) = .ok u :=
      (get_of_names ((hframework.read _).2 hs) ((hstyle.read _).2 ht)).2 hu
    exact ⟨u, key_of_find? hu, hget, (hagree.content u hget).1, (hagree.single u).2 hget,
      (hagree.tfae.out 0 1 rfl rfl).2 ⟨u, hget⟩⟩
  · obtain ⟨hlist, hfails⟩ := hagree.unknown (isUnknown_of_not_spells h) s t rfl rfl
    exact ⟨hfails.get, hfails.content, hlist, hfails.holds⟩
  · obtain ⟨u, hu, hkey⟩ := List.mem_map.1 (hfull ⟨f, .autoMain⟩)
    have hname : u.framework = f := congrArg Key.framework hkey
    refine ⟨_, List.ne_nil_of_mem (List.mem_filter.2 ⟨hu, by simpa using hname.symm⟩),
      list_of_framework rfl ((hframework.read f).2 hs), fun v => ?_⟩
    simp [eq_comm]
  · exact list_of_unknown_framework rfl (parse_ne_of_not_spells hframework h)
  · obtain ⟨u, hu, hkey⟩ := List.mem_map.1 (hfull ⟨.catch2, x⟩)
    have hname : u.style = x := congrArg Key.style hkey
    refine ⟨_, List.ne_nil_of_mem (List.mem_filter.2 ⟨hu, by simpa using hname.symm⟩),
      list_of_style rfl ((hstyle.read x).2 ht), fun v => ?_⟩
    simp [eq_comm]
  · rw [list, wantedStyle_of_unknown rfl (parse_ne_of_not_spells hstyle h)]
    rfl

end Full

/-- **The texts under which templates are found.**  A text is read as a framework or a style exactly
if it spells its name, and a catalogue with a template under every key is asked with success for the
spellings only. -/
theorem spellings_accepted (s t : String) :
    Argument.ReadsSpellings Framework s ∧ Argument.ReadsSpellings Style t ∧
    ∀ calls : List Registration, (∀ k : Key, k ∈ calls.map Registration.key) →
      AcceptsSpellings (after calls) s t := by
  refine ⟨readsSpellings Vocabulary.isPlain_framework s, readsSpellings Vocabulary.isPlain_style t,
    fun calls hall => ?_⟩
  have hkeys := keysFollow_after calls
  exact acceptsSpellings (fun k => (hkeys.mem k).2 (hall k))
    (agree_of_nodup hkeys.nodup rfl rfl)

/-- One call for every key. -/
def bareCalls : List Registration := Key.all.map fun k => ⟨bareTemplate k, false⟩

/-- An ideographic space in front and capitals in the midst of a name do not matter. -/
theorem spellings_accepted_bare :
    (∀ k : Key, k ∈ bareCalls.map Registration.key) ∧
    ∃ u, u.key = ⟨.doctest, .autoMain⟩ ∧
      (after bareCalls).get (ofString "\u3000DocTest") (ofString "AUTO_main\n") = .ok u := by
  have hall : ∀ k : Key, k ∈ bareCalls.map Registration.key := by
    intro k
    rw [bareCalls, List.map_map]
    exact List.mem_map.2 ⟨k, Key.mem_all k, rfl⟩
  have hdoctest : Spells "\u3000DocTest" Framework.doctest.name :=
    ⟨['\u3000'], "DocTest".toList, [], by decide, by simp [Text.isBlank], by decide⟩
  have hauto : Spells "AUTO_main\n" Style.autoMain.name :=
    ⟨[], "AUTO_main".toList, ['\n'], by decide, by simp [Text.isBlank], by decide⟩
  have haccepts := (spellings_accepted "\u3000DocTest" "AUTO_main\n").2.2 bareCalls hall
  obtain ⟨u, hkey, hget, -⟩ := haccepts.found ⟨.doctest, .autoMain⟩ hdoctest hauto
  exact ⟨hall, u, hkey, hget⟩

end Catalogue

end EntryTemplates
