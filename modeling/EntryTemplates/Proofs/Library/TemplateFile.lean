/-
**Templates come back from their files.**

Of the texts of a template some are lost in single quotes; the others are read back, and with them
the template.

Main definitions:

* `EntryTemplates.Library.withTexts` — a template with the texts that were read for it.

Main results:

* `EntryTemplates.Library.templateOf_write` — what is read from the file of a template;
* `EntryTemplates.Library.templateOf_write_iff` — **a template comes back unchanged from its file
  exactly if none of its texts is lost**.
-/

import EntryTemplates.Library
import EntryTemplates.Proofs.Document.EntryObjects

set_option relaxedAutoImplicit false
set_option autoImplicit false

namespace EntryTemplates.Library

open Document

/-! ### The names in a file -/

theorem isEntryName_fileEntries (t : Template) :
    ∀ entry ∈ fileEntries t, IsEntryName entry.1 := by
  have hname (name : String) (h : name ∈ ["framework", "style", "description", "author", "version",
      "template"]) : IsEntryName name := by
    have hall : ∀ name ∈ ["framework", "style", "description", "author", "version", "template"],
        name.toList ≠ [] ∧ name.toList.all Char.isLower = true ∧ name.toList.length ≤ 1024 ∧
          resolve name = .str := by
      decide +kernel
    obtain ⟨hne, hlower, hshort, htext⟩ := hall name h
    exact ⟨hne, List.all_eq_true.1 hlower, hshort, htext⟩
  intro entry hentry
  refine hname entry.1 ?_
  have := List.mem_map_of_mem (f := Prod.fst) hentry
  simpa [fileEntries] using this

theorem nodup_fileEntries (t : Template) : ((fileEntries t).map Prod.fst).Nodup := by
  simp [fileEntries]

/-! ### Reading a file -/

/-- A template with other texts, in which no character is halved. -/
def withTexts (t : Template) (content description author source : String) : Template :=
  { t with content, description, author, source, contentHalves := [], descriptionHalves := [] }

theorem parse_framework_name (f : Framework) :
    (Argument.plain (.text f.name)).parse = .ok f := by
  cases f <;> decide

theorem parse_style_name (s : Style) : (Argument.plain (.text s.name)).parse = .ok s := by
  cases s <;> decide

theorem not_lost_name (k : Key) : ¬ Lost k.framework.name ∧ ¬ Lost k.style.name := by
  obtain ⟨f, s⟩ := k
  cases f <;> cases s <;> decide +kernel

theorem optionalText_text {d : Description} {key s : String} (h : d key = some (.text s)) :
    optionalText d key = .ok s := by
  rw [optionalText, h]
  by_cases hs : s = ""
  · simp [Datum.isTrue, hs]
  · simp [Datum.isTrue, hs, looseOf, textOf, Datum.asText, Except.mapError, Except.map]

/-- **What is read from the file of a template**: the template, with the texts that are read. -/
theorem templateOf_write (t : Template) (hversion : t.version = "1.0.0") (source : String) :
    ∃ content description author, ValueRead t.content content ∧
      ValueRead t.description description ∧ ValueRead t.author author ∧
      templateOf (Document.write (fileEntries t)) source =
        if (withTexts t content description author source).problems = [] then
          .ok (withTexts t content description author source)
        else .error (.fault (.report (.invalid
          (withTexts t content description author source)))) := by
  obtain ⟨l, found, hload, hfound, hlookup⟩ := load_write
    (by simp [fileEntries]) (isEntryName_fileEntries t) (nodup_fileEntries t)
  obtain ⟨framework, hframework, hd₁⟩ :=
    hlookup "framework" t.framework.name (by simp [fileEntries])
  obtain ⟨style, hstyle, hd₂⟩ := hlookup "style" t.style.name (by simp [fileEntries])
  obtain ⟨description, hdescription, hd₃⟩ :=
    hlookup "description" t.description (by simp [fileEntries])
  obtain ⟨author, hauthor, hd₄⟩ := hlookup "author" t.author (by simp [fileEntries])
  obtain ⟨version, hversion', hd₅⟩ := hlookup "version" t.version (by simp [fileEntries])
  obtain ⟨content, hcontent, hd₆⟩ := hlookup "template" t.content (by simp [fileEntries])
  -- the names and the version are not lost, so they are read as they were written
  obtain ⟨hlost₁, hlost₂⟩ := not_lost_name t.key
  obtain rfl := hframework.same hlost₁
  obtain rfl := hstyle.same hlost₂
  obtain rfl := hversion'.same (by rw [hversion]; decide +kernel)
  refine ⟨content, description, author, hcontent, hdescription, hauthor, ?_⟩
  have htemplate : templateOfDescription (l.lookup found) source =
      if (withTexts t content description author source).problems = [] then
        .ok (withTexts t content description author source)
      else .error (.fault (.report (.invalid
        (withTexts t content description author source)))) := by
    simp only [templateOfDescription, required, requiredName, hd₁, hd₂, hd₆, bind, Except.bind,
      parse_framework_name, parse_style_name, optionalText_text hd₃, optionalText_text hd₄, textOr,
      hd₅, contentOf, textOf, Datum.asText, Except.mapError]
    rfl
  rw [templateOf, hload]
  simp only [hfound]
  exact htemplate

theorem withTexts_eq_iff {t : Template} (hcontent : t.contentHalves = [])
    (hdescription : t.descriptionHalves = []) {content description author : String} :
    withTexts t content description author t.source = t ↔
      content = t.content ∧ description = t.description ∧ author = t.author := by
  obtain ⟨framework, style, content', description', source, author', version, _, _⟩ := t
  obtain rfl := hcontent
  obtain rfl := hdescription
  simp [withTexts]

/-- **A template comes back unchanged from its file exactly if none of its texts is lost.** -/
theorem templateOf_write_iff {t : Template} (hversion : t.version = "1.0.0")
    (hwhole : t.contentHalves = [] ∧ t.descriptionHalves = []) (hvalid : t.problems = []) :
    templateOf (Document.write (fileEntries t)) t.source = .ok t ↔
      ¬ (Lost t.content ∨ Lost t.description ∨ Lost t.author) := by
  obtain ⟨content, description, author, hcontent, hdescription, hauthor, hread⟩ :=
    templateOf_write t hversion t.source
  rw [hread, not_or, not_or, ← hcontent.eq_iff, ← hdescription.eq_iff, ← hauthor.eq_iff,
    ← withTexts_eq_iff hwhole.1 hwhole.2]
  constructor
  · intro h
    split at h
    · exact Except.ok.inj h
    · exact absurd h (by simp)
  · intro h
    rw [h, if_pos hvalid]

end EntryTemplates.Library
