/-
**Names in a directory.**

Main definitions:

* `EntryTemplates.Files.IsName` — the names that an entry of a directory may have.

Main results:

* `EntryTemplates.Files.Path.child_of_isName` — a name is one more part of a path;
* `EntryTemplates.Files.Path.text_child_inj` — different names in a directory make different paths;
* `EntryTemplates.Files.Path.exists_text_eq` — the text of a path ends with the ending of its name;
* `EntryTemplates.Files.Tree.sortNames_eq_of_perm` — **the order in which names are listed does not
  matter once they are sorted**.
-/

import EntryTemplates.Files.Tree
import Mathlib.Data.List.TakeDrop
import Mathlib.Data.String.Basic
import Mathlib.Tactic.Common

set_option relaxedAutoImplicit false
set_option autoImplicit false

namespace EntryTemplates.Files

/-- The names that an entry of a directory may have. -/
structure IsName (name : String) : Prop where
  ne : name ≠ ""
  notHere : name ≠ "."
  notUp : name ≠ ".."
  noSlash : '/' ∉ name.toList
  noNull : '\x00' ∉ name.toList

instance (name : String) : Decidable (IsName name) :=
  decidable_of_iff (name ≠ "" ∧ name ≠ "." ∧ name ≠ ".." ∧ '/' ∉ name.toList ∧
      '\x00' ∉ name.toList)
    ⟨fun ⟨ne, notHere, notUp, noSlash, noNull⟩ => ⟨ne, notHere, notUp, noSlash, noNull⟩,
      fun ⟨ne, notHere, notUp, noSlash, noNull⟩ => ⟨ne, notHere, notUp, noSlash, noNull⟩⟩

theorem splitAtCharFrom_of_not_mem {mark : Char} {s : List Char} (h : mark ∉ s)
    (begun : List Char) : Text.splitAtCharFrom mark begun s = [begun.reverse ++ s] := by
  induction s generalizing begun with
  | nil => simp [Text.splitAtCharFrom]
  | cons ch s ih =>
      rw [List.mem_cons, not_or] at h
      rw [Text.splitAtCharFrom, if_neg fun hch => h.1 hch.symm, ih h.2]
      simp

namespace Path

theorem ofString_of_isName {name : String} (h : IsName name) : ofString name = ⟨"", [name]⟩ := by
  have hparts : partsOf name.toList = [name] := by
    rw [partsOf, Text.splitAtChar, splitAtCharFrom_of_not_mem h.noSlash]
    simp [h.ne, h.notHere]
  have hroot : rootOf name.toList = "" := by
    have hslash := h.noSlash
    cases hname : name.toList with
    | nil => rfl
    | cons ch rest =>
        rw [hname, List.mem_cons, not_or] at hslash
        have hch : ch ≠ '/' := fun h => hslash.1 h.symm
        rw [rootOf] <;> simp [hch]
  rw [ofString, hparts, hroot]

/-- A name is one more part of a path. -/
theorem child_of_isName (p : Path) {name : String} (h : IsName name) :
    p.child name = ⟨p.root, p.parts ++ [name]⟩ := by
  rw [child, ofString_of_isName h, join]
  simp [isAbsolute]

theorem text_append_singleton (root : String) (parts : List String) :
    ∃ before, ∀ name, Path.text ⟨root, parts ++ [name]⟩ = before ++ name := by
  cases parts with
  | nil =>
      refine ⟨root, fun name => ?_⟩
      simp [text]
  | cons part parts =>
      refine ⟨root ++ ("/".intercalate (part :: parts) ++ "/"), fun name => ?_⟩
      rw [text, if_neg (by simp), String.intercalate_append_of_ne_nil (by simp) (by simp),
        String.intercalate_singleton]
      simp [String.append_assoc]

/-- **Different names in a directory make different paths.** -/
theorem text_child_inj {p : Path} {name name' : String} (h : IsName name) (h' : IsName name')
    (htext : (p.child name).text = (p.child name').text) : name = name' := by
  obtain ⟨before, hbefore⟩ := text_append_singleton p.root p.parts
  rw [child_of_isName p h, child_of_isName p h', hbefore, hbefore] at htext
  exact String.append_right_inj _ |>.1 htext

/-! ### Endings -/

theorem exists_stem (name : List Char) : ∃ stem, name = stem ++ suffixOf name := by
  have hspan :=
    List.takeWhile_append_dropWhile (p := fun ch => decide (ch ≠ '.')) (l := name.reverse)
  rw [suffixOf, List.span_eq_takeWhile_dropWhile]
  split
  · exact ⟨name, by simp⟩
  · exact ⟨name, by simp⟩
  · exact ⟨name, by simp⟩
  · rename_i ending dot more _ _ heq
    obtain ⟨htake, hdrop⟩ := Prod.mk.inj heq
    refine ⟨more.reverse, ?_⟩
    rw [← List.reverse_inj, ← hspan, htake, hdrop]
    simp

/-- **The text of a path ends with the ending of its name.** -/
theorem exists_text_eq {p : Path} (h : p.suffix ≠ "") : ∃ before, p.text = before ++ p.suffix := by
  obtain ⟨stem, hstem⟩ := exists_stem p.name.toList
  have hname : p.name = String.ofList stem ++ p.suffix := by
    rw [suffix, ← String.ofList_append, ← hstem, String.ofList_toList]
  have hne : p.parts ≠ [] := by
    intro hnil
    apply h
    rw [suffix, name, hnil]
    decide
  obtain ⟨parts, last, hparts⟩ : ∃ parts last, p.parts = parts ++ [last] :=
    ⟨p.parts.dropLast, p.parts.getLast hne, (List.dropLast_concat_getLast hne).symm⟩
  obtain ⟨before, hbefore⟩ := text_append_singleton p.root parts
  have hlast : p.name = last := by simp [name, hparts]
  refine ⟨before ++ String.ofList stem, ?_⟩
  rw [String.append_assoc, ← hname, hlast, ← hbefore last, ← hparts]

end Path

/-! ### Names in their order -/

namespace Tree

theorem pairwise_sortNames (names : List String) : (sortNames names).Pairwise (· ≤ ·) := by
  have hle : ∀ a b : String, (!decide (b < a)) = true ↔ a ≤ b := fun a b => by
    rw [Bool.not_eq_true', decide_eq_false_iff_not, not_lt]
  have hsorted : (sortNames names).Pairwise fun a b => !decide (b < a) := by
    refine List.pairwise_mergeSort (fun a b c hab hbc => ?_) (fun a b => ?_) names
    · exact (hle a c).2 (((hle a b).1 hab).trans ((hle b c).1 hbc))
    · rw [Bool.or_eq_true, hle, hle]
      exact le_total a b
  exact hsorted.imp fun h => (hle _ _).1 h

theorem mem_sortNames {name : String} {names : List String} :
    name ∈ sortNames names ↔ name ∈ names := List.mem_mergeSort

/-- **The order in which names are listed does not matter once they are sorted.** -/
theorem sortNames_eq_of_perm {names names' : List String} (h : names.Perm names') :
    sortNames names = sortNames names' := by
  have hperm : (sortNames names).Perm (sortNames names') :=
    (List.mergeSort_perm _ _).trans (h.trans (List.mergeSort_perm _ _).symm)
  exact hperm.eq_of_pairwise (fun _ _ _ _ => le_antisymm) (pairwise_sortNames names)
    (pairwise_sortNames names')

end Tree

end EntryTemplates.Files
