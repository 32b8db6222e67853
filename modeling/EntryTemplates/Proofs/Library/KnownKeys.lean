/-
**What a template file is asked for.**

A template file is asked for six keys.  Three of them must be there; the others have a text that
stands for them where they are left out.  A null is as good as nothing under `description` and
`author`.  Under `version` it is not: there it is a text like any other.

Main definitions:

* `EntryTemplates.Library.FileTells` — the file is a mapping with these entries;
* `EntryTemplates.Library.Reworded` — entries are reordered, and others are added that say nothing.

Main results:

* `EntryTemplates.Library.templateOfFile_of_said` — what is made of a file whose values can be loaded;
* `EntryTemplates.Library.known_keys_decide` — **what is made of a file that is reworded**;
* `EntryTemplates.Library.null_version_read` — a version that is null.
-/

import EntryTemplates.Proofs.Document.Mappings
import EntryTemplates.Proofs.Library.Choice

set_option relaxedAutoImplicit false
set_option autoImplicit false

namespace EntryTemplates.Library

open Document

/-! ### Entries that are added -/

section Said

variable {entries entries' added : List (String × Tree)} {key : String}

theorem said_of_perm (hdistinct : (entries.map Prod.fst).Nodup) (hperm : entries'.Perm entries)
    (key : String) : said entries' key = said entries key := by
  have hdistinct' : (entries'.map Prod.fst).Nodup := (hperm.map Prod.fst).nodup_iff.2 hdistinct
  refine Option.ext fun d => ?_
  rw [said_eq_some_iff hdistinct, said_eq_some_iff hdistinct']
  simp only [hperm.mem_iff]

theorem find?_eq_none_of_not_mem (h : key ∉ entries.map Prod.fst) :
    (entries.find? fun entry => entry.1 = key) = none := by
  refine List.find?_eq_none.2 fun entry hentry heq => h ?_
  exact List.mem_map.2 ⟨entry, hentry, by simpa using heq⟩

/-- Entries under other keys say nothing. -/
theorem said_append_of_not_mem (h : key ∉ added.map Prod.fst) :
    said (entries ++ added) key = said entries key := by
  rw [said, said, List.find?_append, find?_eq_none_of_not_mem h, Option.or_none]

end Said

/-- The keys that a template file is asked for. -/
def knownKeys : List String := ["template", "framework", "style", "description", "author", "version"]

/-- The keys among them that may be left out. -/
def optionalKeys : List String := ["description", "author", "version"]

/-- The entry says nothing: it is a text under a key that no one asks for, or a null under a key that
may be left out. -/
def SaysNothing (entry : String × Tree) : Prop :=
  entry.1 ∉ knownKeys ∧ (∃ text, entry.2 = .scalar .str text) ∨
    entry.1 ∈ optionalKeys ∧ entry.2.datum? = some .null

/-- The entries are reordered, and others are added that say nothing. -/
def Reworded (entries entries' : List (String × Tree)) : Prop :=
  ∃ added, entries'.Perm (entries ++ added) ∧ ∀ entry ∈ added, SaysNothing entry

theorem SaysNothing.isSome_datum? {entry : String × Tree} (h : SaysNothing entry) :
    entry.2.datum?.isSome := by
  obtain ⟨-, text, htext⟩ | ⟨-, hnull⟩ := h
  · rw [htext, Tree.datum?_scalar rfl]
    rfl
  · rw [hnull]
    rfl

/-- What a key says after rewording: the same, or it is one that may be left out, and was, and has got
a null. -/
theorem said_reworded {entries entries' : List (String × Tree)}
    (hdistinct : (entries'.map Prod.fst).Nodup) (h : Reworded entries entries') {key : String}
    (hkey : key ∈ knownKeys) :
    said entries' key = said entries key ∧
        (key ∈ entries'.map Prod.fst ↔ key ∈ entries.map Prod.fst) ∨
      key ∈ optionalKeys ∧ key ∈ entries'.map Prod.fst ∧ key ∉ entries.map Prod.fst ∧
        said entries key = none ∧ said entries' key = some .null := by
  obtain ⟨added, hperm, hnothing⟩ := h
  have hdistinct' := (hperm.map Prod.fst).nodup_iff.1 hdistinct
  have hmem : key ∈ entries'.map Prod.fst ↔
      key ∈ entries.map Prod.fst ∨ key ∈ added.map Prod.fst := by
    rw [(hperm.map Prod.fst).mem_iff, List.map_append, List.mem_append]
  by_cases hadded : key ∈ added.map Prod.fst
  · right
    have hold : key ∉ entries.map Prod.fst := fun hold => by
      rw [List.map_append, List.nodup_append] at hdistinct'
      exact hdistinct'.2.2 key hold key hadded rfl
    obtain ⟨⟨_, value⟩, hentry, rfl⟩ := List.mem_map.1 hadded
    obtain ⟨hother, -⟩ | ⟨hoptional, hnull⟩ := hnothing _ hentry
    · exact absurd hkey hother
    · refine ⟨hoptional, hmem.2 (.inr hadded), hold, ?_, ?_⟩
      · rw [said, find?_eq_none_of_not_mem hold, Option.bind_none]
      · refine (said_eq_some_iff hdistinct).2 ⟨value, ?_, hnull⟩
        exact hperm.mem_iff.2 (List.mem_append_right _ hentry)
  · left
    rw [said_of_perm hdistinct' hperm, said_append_of_not_mem hadded, hmem, or_iff_left hadded]
    exact ⟨rfl, Iff.rfl⟩

theorem isSome_datum?_reworded {entries entries' : List (String × Tree)}
    (h : Reworded entries entries') : (∀ entry ∈ entries', entry.2.datum?.isSome) ↔
      ∀ entry ∈ entries, entry.2.datum?.isSome := by
  obtain ⟨added, hperm, hnothing⟩ := h
  have hadded : ∀ entry ∈ added, entry.2.datum?.isSome := fun entry hentry =>
    (hnothing entry hentry).isSome_datum?
  simp only [hperm.mem_iff]
  rw [List.forall_mem_append, and_iff_left hadded]

/-! ### What a description means -/

section Description

variable {d d' : Description} {source : String} {t : Template}

theorem required_eq_ok {key : String} {v : Datum} : required d key = .ok v ↔ d key = some v := by
  rw [required]
  cases d key <;> simp

theorem requiredName_eq_ok {α : Type} [Nameable α] {key : String} {a : α} :
    (requiredName d key : Except Unusable α) = .ok a ↔
      ∃ v, d key = some v ∧ (Argument.plain v).parse = .ok a := by
  simp only [requiredName, Except.bind_eq_ok, required_eq_ok, Except.mapError_eq_ok]

/-- A description means a template: each of its parts stands under its key, or is what stands for it,
and nothing is wrong with it. -/
structure Means (d : Description) (source : String) (t : Template) : Prop where
  content : ∃ v, d "template" = some v ∧ contentOf v = .ok t.looseContent
  framework : ∃ v, d "framework" = some v ∧ (Argument.plain v).parse = .ok t.framework
  style : ∃ v, d "style" = some v ∧ (Argument.plain v).parse = .ok t.style
  description : optionalText d "description" = .ok t.looseDescription
  author : (optionalText d "author").map Text.Loose.shape = .ok t.author
  version : textOr d "version" "1.0.0" = .ok t.version
  source : t.source = source
  right : t.problems = []

/-- **The template of a description is the one that it means.** -/
theorem templateOfDescription_eq_ok :
    templateOfDescription d source = .ok t ↔ Means d source t := by
  rw [templateOfDescription, Except.bind_eq_ok]
  constructor
  · rintro ⟨v, hv, h⟩
    obtain ⟨content, hcontent, h⟩ := Except.bind_eq_ok.1 h
    obtain ⟨framework, hframework, h⟩ := Except.bind_eq_ok.1 h
    obtain ⟨style, hstyle, h⟩ := Except.bind_eq_ok.1 h
    obtain ⟨description, hdescription, h⟩ := Except.bind_eq_ok.1 h
    obtain ⟨author, hauthor, h⟩ := Except.bind_eq_ok.1 h
    obtain ⟨version, hversion, h⟩ := Except.bind_eq_ok.1 h
    dsimp only at h
    split at h
    · rename_i hright
      obtain rfl := Except.ok.inj h
      exact ⟨⟨v, required_eq_ok.1 hv, hcontent⟩, requiredName_eq_ok.1 hframework,
        requiredName_eq_ok.1 hstyle, hdescription, by rw [hauthor]; rfl, hversion, rfl, hright⟩
    · exact absurd h (by simp)
  · intro h
    obtain ⟨v, hv, hcontent⟩ := h.content
    obtain ⟨author, hauthor, hshape⟩ := Except.map_eq_ok.1 h.author
    refine ⟨v, required_eq_ok.2 hv, Except.bind_eq_ok.2 ⟨_, hcontent, ?_⟩⟩
    refine Except.bind_eq_ok.2 ⟨t.framework, requiredName_eq_ok.2 h.framework, ?_⟩
    refine Except.bind_eq_ok.2 ⟨t.style, requiredName_eq_ok.2 h.style, ?_⟩
    refine Except.bind_eq_ok.2 ⟨_, h.description, ?_⟩
    refine Except.bind_eq_ok.2 ⟨author, hauthor, ?_⟩
    refine Except.bind_eq_ok.2 ⟨t.version, h.version, ?_⟩
    rw [← h.source]
    dsimp only
    rw [hshape]
    exact if_pos h.right

section Agreeing

variable (hrequired : ∀ key ∈ ["template", "framework", "style"], d' key = d key)
  (hdescription : optionalText d' "description" = optionalText d "description")
  (hauthor : optionalText d' "author" = optionalText d "author")

include hrequired hdescription hauthor

/-- A description that agrees with another one, but for the version, means the same with its own
version. -/
theorem Means.other_version (h : Means d source t) {version : String}
    (hversion : textOr d' "version" "1.0.0" = .ok version) :
    Means d' source { t with version } where
  content := by
    rw [hrequired "template" (by simp)]
    exact h.content
  framework := by
    rw [hrequired "framework" (by simp)]
    exact h.framework
  style := by
    rw [hrequired "style" (by simp)]
    exact h.style
  description := hdescription.trans h.description
  author := by
    rw [hauthor]
    exact h.author
  version := hversion
  source := h.source
  right := h.right

/-- So do what is made of the two descriptions, if the versions of both have texts. -/
theorem toOption_templateOfDescription {version version' : String}
    (hversion : textOr d "version" "1.0.0" = .ok version)
    (hversion' : textOr d' "version" "1.0.0" = .ok version') :
    (templateOfDescription d' source).toOption = (templateOfDescription d source).toOption.map
      fun t => { t with version := version' } := by
  cases hd : templateOfDescription d source with
  | ok t =>
      have hmeans := (templateOfDescription_eq_ok.1 hd).other_version hrequired hdescription hauthor
        hversion'
      rw [templateOfDescription_eq_ok.2 hmeans]
      rfl
  | error e =>
      cases hd' : templateOfDescription d' source with
      | error e' => rfl
      | ok t =>
          have hmeans := (templateOfDescription_eq_ok.1 hd').other_version
            (fun key hkey => (hrequired key hkey).symm) hdescription.symm hauthor.symm hversion
          rw [templateOfDescription_eq_ok.2 hmeans] at hd
          cases hd

/-- Descriptions that agree in everything that is asked for mean the same. -/
theorem templateOfDescription_congr
    (hversion : textOr d' "version" "1.0.0" = textOr d "version" "1.0.0") :
    templateOfDescription d' source = templateOfDescription d source := by
  have hkey {key : String} (h : key ∈ ["template", "framework", "style"]) :
      required d' key = required d key := by rw [required, required, hrequired key h]
  simp only [templateOfDescription, requiredName, hkey (by simp : "template" ∈ _),
    hkey (by simp : "framework" ∈ _), hkey (by simp : "style" ∈ _), hdescription, hauthor, hversion]

end Agreeing

end Description

/-! ### Files -/

/-- The file is a mapping with these entries. -/
def FileTells (files : Files.Tree) (p : Files.Path) (entries : List (String × Tree)) : Prop :=
  ∃ bytes text, files.read p = .ok bytes ∧ Text.decodeStream bytes = .ok text ∧ Tells text entries

section Files

variable {files files' : Files.Tree} {p : Files.Path} {entries entries' : List (String × Tree)}

/-- **What is made of a file whose values can be loaded**: what its entries say decides. -/
theorem templateOfFile_of_said (h : FileTells files p entries)
    (hvalues : ∀ entry ∈ entries, entry.2.datum?.isSome) :
    templateOfFile files p = templateOfDescription (said entries) p.text := by
  obtain ⟨bytes, text, hread, hdecode, htells⟩ := h
  have hload := load_tells htells
  rw [templateOfFile, hread]
  simp only [hdecode, templateOf]
  cases hl : load text with
  | error e =>
      rw [hl] at hload
      exact absurd hvalues hload
  | ok l =>
      rw [hl] at hload
      obtain ⟨-, found, hfound, hlookup⟩ := hload
      have hsaid : l.lookup found = said entries := funext hlookup
      simp only [hfound, ← hsaid]
      rfl

/-- A file with a value that cannot be loaded describes no template. -/
theorem templateOfFile_of_not_said (h : FileTells files p entries)
    (hvalues : ¬ ∀ entry ∈ entries, entry.2.datum?.isSome) :
    (templateOfFile files p).toOption = none := by
  obtain ⟨bytes, text, hread, hdecode, htells⟩ := h
  have hload := load_tells htells
  rw [templateOfFile, hread]
  simp only [hdecode, templateOf]
  cases hl : load text with
  | error e => rfl
  | ok l =>
      rw [hl] at hload
      exact absurd hload.1 hvalues

/-- A null is as good as nothing where an empty text stands for it. -/
theorem optionalText_of_null {d d' : Description} {key : String} (h : d key = none)
    (h' : d' key = some .null) : optionalText d' key = optionalText d key := by
  rw [optionalText, optionalText, h, h']
  rfl

/-- **What is made of a file that is reworded.**  It describes a template exactly if it did before,
and the same one, unless there was no version and a null has been added for it: then the version is
the text of a null. -/
theorem known_keys_decide (h : FileTells files p entries) (h' : FileTells files' p entries')
    (hreworded : Reworded entries entries') :
    (templateOfFile files' p).toOption =
      if "version" ∈ entries'.map Prod.fst ∧ "version" ∉ entries.map Prod.fst then
        (templateOfFile files p).toOption.map fun t => { t with version := "None" }
      else (templateOfFile files p).toOption := by
  obtain ⟨_, text, _, _, htells⟩ := id h'
  have hsaid {key : String} (hkey : key ∈ knownKeys) :=
    said_reworded htells.distinct hreworded hkey
  by_cases hvalues : ∀ entry ∈ entries, entry.2.datum?.isSome
  · have hrequired : ∀ key ∈ ["template", "framework", "style"],
        said entries' key = said entries key := by
      intro key hkey
      have hnone : ["template", "framework", "style"].all (· ∉ optionalKeys) = true := by decide
      obtain ⟨hsame, -⟩ | ⟨hoptional, -⟩ := hsaid (List.mem_append_left _ hkey)
      · exact hsame
      · exact absurd hoptional (of_decide_eq_true (List.all_eq_true.1 hnone key hkey))
    have hoptional {key : String} (hkey : key ∈ knownKeys) :
        optionalText (said entries') key = optionalText (said entries) key := by
      obtain ⟨hsame, -⟩ | ⟨-, -, -, hnone, hnull⟩ := hsaid hkey
      · rw [optionalText, optionalText, hsame]
      · exact optionalText_of_null hnone hnull
    have hdescription := hoptional (by decide : "description" ∈ knownKeys)
    have hauthor := hoptional (by decide : "author" ∈ knownKeys)
    rw [templateOfFile_of_said h hvalues,
      templateOfFile_of_said h' ((isSome_datum?_reworded hreworded).2 hvalues)]
    obtain ⟨hsame, hkeys⟩ | ⟨-, hnew, hold, hnone, hnull⟩ :=
      hsaid (by decide : "version" ∈ knownKeys)
    · have hversion : textOr (said entries') "version" "1.0.0" =
          textOr (said entries) "version" "1.0.0" := by rw [textOr, textOr, hsame]
      rw [if_neg fun h => h.2 (hkeys.1 h.1),
        templateOfDescription_congr hrequired hdescription hauthor hversion]
    · have hversion : textOr (said entries) "version" "1.0.0" = .ok "1.0.0" := by
        rw [textOr, hnone]
      have hversion' : textOr (said entries') "version" "1.0.0" = .ok "None" := by
        rw [textOr, hnull]
        rfl
      rw [if_pos ⟨hnew, hold⟩,
        toOption_templateOfDescription hrequired hdescription hauthor hversion hversion']
  · rw [templateOfFile_of_not_said h hvalues,
      templateOfFile_of_not_said h' (mt (isSome_datum?_reworded hreworded).1 hvalues)]
    split <;> rfl

end Files

/-! ### A short file -/

/-- A file with the three keys that must be there. -/
def shortFile : String :=
  "\"framework\": \"catch2\"\n\"style\": \"auto_main\"\n" ++
    "\"template\": \"#include <catch2/catch_test_macros.hpp>\\nTEST_CASE(\\\"a\\\") \x7b\x7d\\n\"\n"

/-- What it says. -/
def shortEntries : List ScalarEntry :=
  [⟨"framework", false, "catch2"⟩, ⟨"style", false, "auto_main"⟩, ⟨"template", false, shortTemplate⟩]

/-- The place of a template file. -/
def filePlace : Files.Path := (Files.Path.ofString "templates").child "a.yaml"

theorem fileTells_holding {text : String} {entries : List (String × Tree)} (h : Tells text entries) :
    FileTells (holding text).files filePlace entries :=
  ⟨_, text, Files.Tree.read_of_locate (locate_holding text) fun _ _ _ => not_denies_holding text _ _,
    by
    simp only [Text.decodeStream, Text.decode_toUTF8], h⟩

theorem tells_shortFile : Tells shortFile (shortEntries.map ScalarEntry.entry) :=
  tells_scalars (by decide +kernel) (by decide +kernel) (by decide)

/-- What is made of it has the version that stands for one that is left out. -/
theorem version_shortFile :
    (templateOfFile (holding shortFile).files filePlace).toOption.map Template.version =
      some "1.0.0" := by
  rw [filePlace, templateOfFile_holding]
  decide +kernel

/-- Lines that say nothing: an author that is null, and a note that no one asks for. -/
def annotations : List ScalarEntry := [⟨"author", true, "null"⟩, ⟨"note", false, "none"⟩]

theorem tells_annotated : Tells ("\"author\": null\n\"note\": \"none\"\n" ++ shortFile)
    ((annotations ++ shortEntries).map ScalarEntry.entry) :=
  tells_scalars (by decide +kernel) (by decide +kernel) (by decide)

theorem reworded_annotated : Reworded (shortEntries.map ScalarEntry.entry)
    ((annotations ++ shortEntries).map ScalarEntry.entry) := by
  refine ⟨annotations.map ScalarEntry.entry, ?_, ?_⟩
  · rw [List.map_append]
    exact List.perm_append_comm
  · have hauthor : (ScalarEntry.entry ⟨"author", true, "null"⟩).2.datum? = some .null := by
      have htag : Collector.scalarTag .none true "null" = .null := by decide +kernel
      rw [ScalarEntry.entry, htag, Tree.datum?_scalar rfl]
      rfl
    intro entry hentry
    rcases List.mem_cons.1 hentry with rfl | hentry
    · exact .inr ⟨by decide, hauthor⟩
    · obtain rfl := List.mem_singleton.1 hentry
      exact .inl ⟨by decide, "none", rfl⟩

/-- The lines change nothing: the file describes the same template, which there is. -/
theorem known_keys_decide_annotated :
    FileTells (holding shortFile).files filePlace (shortEntries.map ScalarEntry.entry) ∧
      FileTells (holding ("\"author\": null\n\"note\": \"none\"\n" ++ shortFile)).files filePlace
        ((annotations ++ shortEntries).map ScalarEntry.entry) ∧
      Reworded (shortEntries.map ScalarEntry.entry)
        ((annotations ++ shortEntries).map ScalarEntry.entry) ∧
      (templateOfFile (holding ("\"author\": null\n\"note\": \"none\"\n" ++ shortFile)).files
          filePlace).toOption =
        (templateOfFile (holding shortFile).files filePlace).toOption ∧
      (templateOfFile (holding shortFile).files filePlace).toOption.map Template.version =
        some "1.0.0" := by
  have hshort := fileTells_holding tells_shortFile
  have hannotated := fileTells_holding tells_annotated
  have hdecide := known_keys_decide hshort hannotated reworded_annotated
  exact ⟨hshort, hannotated, reworded_annotated, hdecide.trans (if_neg (by decide)),
    version_shortFile⟩

/-- **A version that is null** is read as the text of a null, though it says no more than one that is
left out. -/
theorem null_version_read :
    FileTells (holding shortFile).files filePlace (shortEntries.map ScalarEntry.entry) ∧
      FileTells (holding ("\"version\": null\n" ++ shortFile)).files filePlace
        ((⟨"version", true, "null"⟩ :: shortEntries).map ScalarEntry.entry) ∧
      (templateOfFile (holding shortFile).files filePlace).toOption.map Template.version =
        some "1.0.0" ∧
      (templateOfFile (holding ("\"version\": null\n" ++ shortFile)).files
        filePlace).toOption.map Template.version = some "None" := by
  have hnull : Tells ("\"version\": null\n" ++ shortFile)
      ((⟨"version", true, "null"⟩ :: shortEntries).map ScalarEntry.entry) :=
    tells_scalars (by decide +kernel) (by decide +kernel) (by decide)
  refine ⟨fileTells_holding tells_shortFile, fileTells_holding hnull, version_shortFile, ?_⟩
  rw [filePlace, templateOfFile_holding]
  decide +kernel

end EntryTemplates.Library
