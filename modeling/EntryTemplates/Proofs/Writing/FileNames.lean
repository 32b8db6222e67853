/-
**File names in settings and in orders.**

The name of a file is checked twice: when settings are built, and before an order is carried out.
Both checks refuse what is a path or no name at all.  Settings ask for the ending of a source file
besides, which rules out the names that are empty or made of dots.  Orders refuse null characters
besides, and settings let them through; so a name of the settings is refused by an order for that
reason, and for no other one.

Main definitions:

* `EntryTemplates.Settings.IsSourceName` — names with the ending of a source file;
* `EntryTemplates.RefusedFor` — an order that is refused for a reason.

Main results:

* `EntryTemplates.Settings.checkFileName_eq_ok` — which names settings accept;
* `EntryTemplates.checkName_of_accepted` — what orders make of them;
* `EntryTemplates.not_refusedFor_of_checkName` — no name is refused later on;
* `EntryTemplates.file_names_judged` — **how far the two checks agree**;
* `EntryTemplates.null_name_refused` — a name with a null character.
-/

import EntryTemplates.Proofs.Settings.Winners
import EntryTemplates.Proofs.Writing.Outcomes

set_option relaxedAutoImplicit false
set_option autoImplicit false

namespace EntryTemplates

/-! ### Names in settings -/

namespace Settings

/-- A name with the ending of a source file. -/
def IsSourceName (name : String) : Prop :=
  ∃ ending ∈ sourceEndings, ending.toList <:+ name.toList

instance (name : String) : Decidable (IsSourceName name) :=
  inferInstanceAs (Decidable (∃ ending ∈ sourceEndings, _))

theorem any_isSuffixOf_iff {name : String} :
    (sourceEndings.any fun ending => ending.toList.isSuffixOf name.toList) = true ↔
      IsSourceName name := by
  simp only [List.any_eq_true, List.isSuffixOf_iff_suffix, IsSourceName]

/-- A name with such an ending is neither empty nor made of dots. -/
theorem IsSourceName.ne {name : String} (h : IsSourceName name) :
    ¬ (name = "" ∨ name = "." ∨ name = "..") := by
  rintro (rfl | rfl | rfl)
  · exact absurd h (by decide)
  · exact absurd h (by decide)
  · exact absurd h (by decide)

/-- **Which names settings accept**: source names without slashes and backslashes. -/
theorem checkFileName_eq_ok {name : String} :
    checkFileName (.text name) = .ok name ↔
      IsSourceName name ∧ ¬ ('/' ∈ name.toList ∨ '\\' ∈ name.toList) := by
  rw [checkFileName, checkText, Except.ok_bind]
  constructor
  · intro h
    split at h
    · cases h
    · split at h
      · cases h
      · rename_i hpath
        split at h
        · rename_i hending
          exact ⟨any_isSuffixOf_iff.1 hending, hpath⟩
        · cases h
  · rintro ⟨hsource, hpath⟩
    rw [if_neg hsource.ne, if_neg hpath, if_pos (any_isSuffixOf_iff.2 hsource)]

/-- The name in settings that were built is one that settings accept. -/
theorem checkFileName_of_build {sources : Sources} {settings : Settings}
    (h : build sources = .ok settings) :
    checkFileName (.text settings.fileName) = .ok settings.fileName := by
  obtain ⟨name, hname, hget⟩ := map_eq_ok (build_eq_ok_iff.1 h .fileName)
  obtain rfl := text_injective hget
  exact checkFileName_text hname

end Settings

/-! ### The same names in orders -/

/-- **What orders make of a name that settings accept**: they refuse it for a null character. -/
theorem checkName_of_accepted {name : String}
    (h : Settings.checkFileName (.text name) = .ok name) :
    checkName name =
      if '\x00' ∈ name.toList then .error (refusedName name "文件名包含空字节" "null_byte")
      else .ok () := by
  obtain ⟨hsource, hpath⟩ := Settings.checkFileName_eq_ok.1 h
  rw [checkName, if_neg hsource.ne, if_neg hpath]

/-- Settings accept the source names that orders accept. -/
theorem checkFileName_of_checkName {name : String} (h : checkName name = .ok ())
    (hsource : Settings.IsSourceName name) :
    Settings.checkFileName (.text name) = .ok name := by
  obtain ⟨hname, hbackslash⟩ := checkName_eq_ok.1 h
  exact Settings.checkFileName_eq_ok.2 ⟨hsource, fun hpath => hpath.elim hname.noSlash hbackslash⟩

/-- An order that is refused for a reason. -/
def RefusedFor (reason : String) (x : Except Fault Files.Path) : Prop :=
  ∃ template path message, x = .error (.report ⟨.writing template path (some reason), message⟩)

/-- The reasons for which a name is refused. -/
def nameReasons : List String := ["empty", "null_byte", "traversal"]

section Order

variable {c : Catalogue} {s : Settings} {o : Order} {reason : String}

theorem not_refusedFor_renderFault {t : Template} {context : Render.Context}
    {failure : Render.Failure} :
    ¬ RefusedFor reason (.error (Catalogue.renderFault t context failure)) := by
  rintro ⟨template, path, message, heq⟩
  rcases failure with (broken | n) | (shown | n) | ⟨kind, text⟩ <;> cases heq

theorem not_refusedFor_writtenText {t : Template} {context : Render.Context} {e : Fault}
    (h : writtenText t context = .error e) : ¬ RefusedFor reason (.error e) := by
  rw [writtenText, Catalogue.renderTemplate] at h
  split at h
  · cases hwhole : t.looseContent.whole with
    | ok content => simp [hwhole, Except.mapError] at h
    | error half =>
        rw [hwhole] at h
        obtain rfl := Except.error.inj h
        rintro ⟨template, path, message, heq⟩
        cases heq
  · split at h
    · cases h
    · obtain rfl := Except.error.inj h
      exact not_refusedFor_renderFault

theorem not_refusedFor_unwritten {t : Template} {p : Files.Path} {message later : String}
    (hlater : later ∉ nameReasons) (hreason : reason ∈ nameReasons) :
    ¬ RefusedFor reason (.error (unwritten t p message later)) := by
  rintro ⟨template, path, message', heq⟩
  simp only [unwritten, Except.error.injEq, Fault.report.injEq, Report.mk.injEq, Cause.writing.injEq,
    Option.some.injEq] at heq
  exact hlater (heq.1.2.2 ▸ hreason)

theorem not_refusedFor_files {e : Files.Failure} : ¬ RefusedFor reason (.error (.files e)) := by
  rintro ⟨template, path, message, heq⟩
  cases heq

/-- The checks that come after that of the name do not refuse a name. -/
theorem not_refusedFor_prepare {files : Files.Tree} {e : Fault}
    (hname : checkName (o.name s) = .ok ()) (hreason : reason ∈ nameReasons)
    (h : o.prepare c s files = .error e) : ¬ RefusedFor reason (.error e) := by
  rw [Order.prepare, hname] at h
  simp only [Except.mapError, Except.ok_bind] at h
  cases hfound : c.get o.framework o.style with
  | error e =>
      rw [hfound] at h
      obtain rfl := Except.error.inj h
      rintro ⟨template, path, message, heq⟩
      rcases Catalogue.get_eq_error hfound with ⟨framework, style, he⟩ | ⟨n, -, he⟩
      · cases he.symm.trans (Except.error.inj heq)
      · cases he.symm.trans (Except.error.inj heq)
  | ok t =>
      rw [hfound, Except.ok_bind] at h
      cases hfolder : files.isDirectory (Files.Path.ofString o.directory) with
      | error failure =>
          rw [hfolder] at h
          obtain rfl := Except.error.inj h
          exact not_refusedFor_files
      | ok there =>
          rw [hfolder, Except.ok_bind] at h
          cases there with
          | false =>
              obtain rfl := Except.error.inj h
              exact not_refusedFor_unwritten (by decide) hreason
          | true =>
              cases htaken : files.contains ((Files.Path.ofString o.directory).child (o.name s)) with
              | error failure =>
                  simp only [htaken] at h
                  obtain rfl := Except.error.inj h
                  exact not_refusedFor_files
              | ok taken =>
                  simp only [htaken, Except.ok_bind] at h
                  split at h
                  · obtain rfl := Except.error.inj h
                    exact not_refusedFor_unwritten (by decide) hreason
                  · cases hcontent : writtenText t o.context with
                    | error failure =>
                        rw [hcontent] at h
                        obtain rfl := Except.error.inj h
                        exact not_refusedFor_writtenText hcontent
                    | ok content =>
                        rw [hcontent] at h
                        cases h

/-- **A name that passes its check is not refused later on**, whatever else goes wrong. -/
theorem not_refusedFor_of_checkName (hname : checkName (o.name s) = .ok ())
    (hreason : reason ∈ nameReasons) (w : World) :
    ¬ RefusedFor reason ((writeTemplate c s o).run.run w).1 := by
  rw [run_writeTemplate]
  cases hprepare : o.prepare c s w.files with
  | error e => exact not_refusedFor_prepare hname hreason hprepare
  | ok d =>
      dsimp only
      rw [d.run_write]
      cases w.files.write d.target d.content.toUTF8 with
      | error e => exact not_refusedFor_unwritten (by decide) hreason
      | ok files =>
          rintro ⟨template, path, message, heq⟩
          cases heq

/-- A name that does not pass its check is refused for the reason found there. -/
theorem refusedFor_of_checkName {name message later : String} (w : World)
    (hname : checkName (o.name s) = .error (refusedName name message later)) :
    RefusedFor reason ((writeTemplate c s o).run.run w).1 ↔ reason = later := by
  have hrun : ((writeTemplate c s o).run.run w).1 =
      .error (.report (refusedName name message later)) := by
    rw [run_writeTemplate, Order.prepare, hname]
    rfl
  rw [hrun]
  constructor
  · rintro ⟨template, path, message', heq⟩
    simp only [refusedName, Except.error.injEq, Fault.report.injEq, Report.mk.injEq,
      Cause.writing.injEq, Option.some.injEq] at heq
    exact heq.1.2.2.symm
  · rintro rfl
    exact ⟨none, some name, message, rfl⟩

end Order

/-! ### Both checks together -/

/-- An order that names no file: the name is that of the settings. -/
theorem Order.name_of_left_out {o : Order} (h : o.fileName = none ∨ o.fileName = some "")
    (s : Settings) : o.name s = s.fileName := by
  rcases h with h | h
  · rw [Order.name, h]
  · rw [Order.name, h]
    rfl

/-- **How far the two checks agree.**  Where an order names no file, the name of settings that were
built is refused by it exactly if it holds a null character, and for no other reason.  Conversely
settings accept every source name that orders accept: where it wins, the settings that are built hold
it, and whatever else is wrong, nothing is said against it. -/
theorem file_names_judged (sources : Settings.Sources) :
    (∀ settings, Settings.build sources = .ok settings →
      ∀ (c : Catalogue) (o : Order) (w : World), o.fileName = none ∨ o.fileName = some "" →
        ∀ reason ∈ nameReasons, RefusedFor reason ((writeTemplate c settings o).run.run w).1 ↔
          reason = "null_byte" ∧ '\x00' ∈ settings.fileName.toList) ∧
    ∀ name, checkName name = .ok () → Settings.IsSourceName name →
      sources.Wins .fileName (.text name) →
        (∀ settings, Settings.build sources = .ok settings → settings.fileName = name) ∧
        ∀ problems, Settings.build sources = .error problems →
          ∀ p ∈ problems, p.field ≠ .fileName := by
  refine ⟨fun settings hbuild c o w hleft reason hreason => ?_,
    fun name hname hsource hwins => ?_⟩
  · have hchecked := checkName_of_accepted (Settings.checkFileName_of_build hbuild)
    rw [← Order.name_of_left_out hleft settings] at hchecked ⊢
    by_cases hnull : '\x00' ∈ (o.name settings).toList
    · rw [if_pos hnull] at hchecked
      rw [refusedFor_of_checkName w hchecked, and_iff_left hnull]
    · rw [if_neg hnull] at hchecked
      exact iff_of_false (not_refusedFor_of_checkName hchecked hreason w) fun h => hnull h.2
  · have haccepted : Settings.Field.check .fileName (.text name) = .ok (.text name) := by
      rw [Settings.Field.check, checkFileName_of_checkName hname hsource]
      rfl
    rw [← Settings.Sources.wins_iff.1 hwins] at haccepted
    refine ⟨fun settings hbuild => ?_, fun problems hbuild p hp hfield => ?_⟩
    · have hget := (Settings.build_eq_ok_iff.1 hbuild .fileName).symm.trans haccepted
      rw [Settings.Sources.wins_iff.1 hwins] at hget
      exact Settings.text_injective (Except.ok.inj hget)
    · obtain rfl := Settings.eq_problems_of_build_eq_error hbuild
      have hrefused := Settings.mem_problems_iff.1 hp
      rw [hfield, haccepted] at hrefused
      cases hrefused

/-- Settings that are given the name of a file, and nothing else. -/
def namedBy (name : String) : Settings.Sources := ⟨[("test_main_file_name", .text name)], [], []⟩

/-- The settings that are built of it, if the name is accepted. -/
def settingsNamed (name : String) : Settings := { Settings.standard with fileName := name }

/-- A name of dots and an ending passes both checks. -/
theorem file_names_judged_dots :
    Settings.build (namedBy "...cc") = .ok (settingsNamed "...cc") ∧
      (∀ reason ∈ nameReasons, ¬ RefusedFor reason
        ((writeTemplate plainCatalogue (settingsNamed "...cc") plainOrder).run.run loggedStart).1) ∧
      (namedBy "...cc").Wins .fileName (.text "...cc") ∧
      ∀ settings, Settings.build (namedBy "...cc") = .ok settings → settings.fileName = "...cc" := by
  have hbuild : Settings.build (namedBy "...cc") = .ok (settingsNamed "...cc") := by decide +kernel
  have hname : checkName "...cc" = .ok () := checkName_eq_ok.2 (by decide)
  have hwins : (namedBy "...cc").Wins .fileName (.text "...cc") :=
    .given ⟨[], _, [], rfl, rfl, by simp⟩
  refine ⟨hbuild, fun reason hreason hrefused => ?_, hwins, ?_⟩
  · have hnull := ((file_names_judged (namedBy "...cc")).1 _ hbuild plainCatalogue plainOrder
      loggedStart (Or.inl rfl) reason hreason).1 hrefused
    exact absurd hnull.2 (by decide)
  · exact ((file_names_judged (namedBy "...cc")).2 "...cc" hname (by decide) hwins).1

/-- **A name with a null character** is accepted by settings, and refused by an order. -/
theorem null_name_refused :
    Settings.build (namedBy "a\x00.cpp") = .ok (settingsNamed "a\x00.cpp") ∧
      RefusedFor "null_byte"
        ((writeTemplate plainCatalogue (settingsNamed "a\x00.cpp") plainOrder).run.run
          loggedStart).1 := by
  have haccepted : Settings.checkFileName (.text "a\x00.cpp") = .ok "a\x00.cpp" :=
    Settings.checkFileName_eq_ok.2 (by decide)
  have hrefused : checkName (plainOrder.name (settingsNamed "a\x00.cpp")) = _ :=
    (checkName_of_accepted haccepted).trans (if_pos (by decide))
  exact ⟨by decide +kernel, (refusedFor_of_checkName loggedStart hrefused).2 rfl⟩

end EntryTemplates
