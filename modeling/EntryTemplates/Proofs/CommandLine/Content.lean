/-
**The content of a template, as it is shown and as it is written.**

A template is looked up in the same way whether it is shown, written or handed out.  Its content is
written byte by byte, but shown without the sequences that control a terminal: so it is shown as it
is exactly if it holds none of them.  A template with a halved character can be looked up, but
neither shown nor written.

Main results:

* `EntryTemplates.CommandLine.display_shows_content` — **what is shown of a template, and what is
  written of it**;
* `EntryTemplates.CommandLine.display_drops_controls` — a template that is not shown as it is.
-/

import EntryTemplates.Proofs.CommandLine.Commands
import EntryTemplates.Proofs.Console.Controls
import EntryTemplates.Proofs.Console.Showing

set_option relaxedAutoImplicit false
set_option autoImplicit false

namespace EntryTemplates.CommandLine

open Console

/-- A name that is given stands for itself. -/
theorem orMember_of_parse {α : Type} [Nameable α] {word : String} {a : α} {m : Member}
    (hempty : ((Argument.ofString "").parse : Except NoMember α).isOk = false)
    (h : (Argument.ofString word).parse = .ok a) :
    (argument (some word)).orMember m = .ofString word := by
  have hne : word ≠ "" := by
    rintro rfl
    rw [h] at hempty
    exact Bool.noConfusion hempty
  have htrue : (argument (some word)).isTrue = true := by
    simp [argument, Argument.ofString, Argument.isTrue, Datum.isTrue, hne]
  rw [Argument.orMember, if_pos htrue]
  rfl

/-- Names that are given mean no defaults. -/
theorem getDefault_of_parse (l : Library) {F S : String} {k : Key}
    (hF : (Argument.ofString F).parse = .ok k.framework)
    (hS : (Argument.ofString S).parse = .ok k.style) :
    l.getDefault (argument (some F)) (argument (some S)) =
      l.catalogue.get (.ofString F) (.ofString S) := by
  rw [Library.getDefault, orMember_of_parse (by decide) hF,
    orMember_of_parse (by decide) hS]

/-- A command that has written says so of a directory that was there. -/
theorem hasDirectory_of_perform_write {l : Library} {s : Settings} {w w' : World}
    {directory : String} {framework style fileName : Option String} {overwrite : Bool}
    {ds : List Display} {code : Nat}
    (h : (perform l s (.write directory framework style fileName overwrite)).run.run w =
      (.ok (.shown ds code), w')) :
    HasDirectory w (.write directory framework style fileName overwrite) := by
  rw [perform, Work.run_bind, run_standing] at h
  cases hlocate : w.files.locate (.ofString directory) with
  | error e =>
      rw [hlocate] at h
      cases e with
      | nullCharacter => exact absurd h Work.error_ne_ok
      | system => cases (Work.ok_eq_ok.1 h).1
  | ok place =>
      rw [hlocate] at h
      cases place with
      | free => cases (Work.ok_eq_ok.1 h).1
      | taken location e =>
          by_cases hthere : e = .directory ∧ ¬ w.files.Denies .read location
          · rw [hthere.1] at hlocate
            exact ⟨location, hlocate, hthere.2⟩
          · simp only [hthere, decide_false] at h
            cases (Work.ok_eq_ok.1 h).1

/-- **How the content of a template is drawn**: without controlling sequences, if no character is
halved. -/
theorem draw_content (t : Template) (width : Nat) :
    (t.contentHalves = [] → (Answer.shown [.raw t.looseContent] 0).draw width =
      ⟨String.ofList (withoutControls t.content.toList), 0, none, none⟩) ∧
    (t.contentHalves ≠ [] → ∃ e, (Answer.shown [.raw t.looseContent] 0).draw width =
      ⟨"", 1, some (.console (.halved e)), none⟩) := by
  constructor
  · intro h
    have hrender : (Display.raw t.looseContent).render width =
        .ok (String.ofList (withoutControls t.content.toList)) := render_raw h
    rw [Answer.draw, shown_singleton hrender]
  · intro h
    obtain ⟨e, hrender⟩ : ∃ e, (Display.raw t.looseContent).render width = .error (.halved e) :=
      render_raw_of_halved h
    exact ⟨e, by simp only [Answer.draw, shown, hrender]⟩

/-- **What is shown of a template, and what is written of it.** -/
theorem display_shows_content {o : Library.Options} {s₀ : Settings} {l : Library}
    (h : Library.Run o s₀ l) (s : Settings) {F S : String} {k : Key}
    (hF : (Argument.ofString F).parse = .ok k.framework)
    (hS : (Argument.ofString S).parse = .ok k.style) :
    ∃ t, l.catalogue.get (.ofString F) (.ofString S) = .ok t ∧ t.key = k ∧
      (∀ w, ∃ a, (perform l s (.display (some F) (some S))).run.run w = (.ok a, w) ∧
        ∀ width,
          (t.contentHalves = [] → a.draw width =
            ⟨String.ofList (withoutControls t.content.toList), 0, none, none⟩) ∧
          (t.contentHalves ≠ [] → ∃ e,
            a.draw width = ⟨"", 1, some (.console (.halved e)), none⟩)) ∧
      (String.ofList (withoutControls t.content.toList) = t.content ↔
        ∀ before seq after, t.content.toList = before ++ seq ++ after → ¬ IsControl seq) ∧
      ∀ w w' directory fileName overwrite ds,
        (perform l s (.write directory (some F) (some S) fileName overwrite)).run.run w =
          (.ok (.shown ds 0), w') →
        t.contentHalves = [] ∧
          ∃ location bytes, w'.files.locate (targetOf s directory fileName) =
            .ok (.taken location (.file bytes)) ∧
          (location ∉ w.logLocations → bytes = t.content.toUTF8) := by
  obtain ⟨t, hget, ht⟩ := h.sound.get hF hS
  have hdefault := (getDefault_of_parse l hF hS).trans hget
  refine ⟨t, hget, Catalogue.key_of_find? ht.found,
    fun w => ⟨_, perform_of_answers h.sound trivial (.display hdefault), draw_content t⟩, ?_,
    fun w w' directory fileName overwrite ds hwrite => ?_⟩
  · rw [← withoutControls_eq_self_iff, ← String.toList_inj, String.toList_ofList]
  · rw [run_perform_write (hasDirectory_of_perform_write hwrite), run_performWrite, hdefault]
      at hwrite
    dsimp only at hwrite
    split at hwrite
    · rename_i target w₁ hrun
      obtain ⟨-, rfl⟩ := Work.ok_eq_ok.1 hwrite
      refine ⟨contentHalves_of_written hdefault hrun, ?_⟩
      obtain ⟨place, content, hwritten⟩ := exists_written hrun
      obtain ⟨bytes, hlocate, hbytes⟩ := hwritten.found
      rw [hwritten.path] at hlocate
      refine ⟨_, bytes, hlocate, fun hlog => ?_⟩
      rw [hbytes hlog, content_of_written hdefault hwritten]
    · obtain ⟨hfailed, -⟩ := Work.ok_eq_ok.1 hwrite
      exact absurd hfailed (by simp [failed])
    · exact absurd hwrite Work.error_ne_ok

/-- A call for a template with a comment that makes a terminal end its colours. -/
def colouredCall : Library.Call :=
  { framework := .ofString "catch2", style := .ofString "auto_main", description := "", author := ""
    content :=
      "#include <catch2/catch_test_macros.hpp>\nTEST_CASE(\"a\") \x7b\x7d // \x1b[0m\n" }

theorem display_shows_content_catch2 :
    ∃ l, Library.Run ⟨some "templates", .missing, .missing⟩ .standard l ∧
      ((Argument.ofString " Catch2").parse = .ok Framework.catch2) ∧
      ((Argument.ofString "auto_main").parse = .ok Style.autoMain) ∧
      ∃ t, l.catalogue.get (.ofString " Catch2") (.ofString "auto_main") = .ok t ∧
        t.key = ⟨.catch2, .autoMain⟩ := by
  obtain ⟨w, hopen⟩ := Library.exists_open_start
  have hF : (Argument.ofString " Catch2").parse = .ok Framework.catch2 := by decide
  have hS : (Argument.ofString "auto_main").parse = .ok Style.autoMain := by decide
  obtain ⟨t, hget, hkey, -⟩ := display_shows_content (k := ⟨.catch2, .autoMain⟩)
    (Library.Run.opened hopen) .standard hF hS
  exact ⟨_, .opened hopen, hF, hS, t, hget, hkey⟩

/-- **A template that is not shown as it is**, although it is right and was created as usual. -/
theorem display_drops_controls :
    ∃ l t, Library.Run ⟨some "templates", .missing, .missing⟩ .standard l ∧
      l.catalogue.get (.ofString "catch2") (.ofString "auto_main") = .ok t ∧
      (perform l .standard (.display (some "catch2") (some "auto_main"))).run.run World.start =
        (.ok (.shown [.raw t.looseContent] 0), World.start) ∧
      ((Answer.shown [.raw t.looseContent] 0).draw 100).exitCode = 0 ∧
      ((Answer.shown [.raw t.looseContent] 0).draw 100).output ≠ t.content := by
  obtain ⟨w, hopen⟩ := Library.exists_open_start
  have hrun := (Library.Run.opened hopen).called colouredCall World.start
  obtain ⟨l, hl⟩ : ∃ l : Library, l = (Library.fresh (some "templates") .catch2 .autoMain).call
      colouredCall World.start := ⟨_, rfl⟩
  rw [← hl] at hrun
  have hF : (Argument.ofString "catch2").parse = .ok Framework.catch2 := by decide
  have hS : (Argument.ofString "auto_main").parse = .ok Style.autoMain := by decide
  obtain ⟨t, hget, ht⟩ := hrun.sound.get (k := ⟨.catch2, .autoMain⟩) hF hS
  have hcontent : t.looseContent = colouredCall.content := by
    have hfound : (l.catalogue.find? ⟨.catch2, .autoMain⟩).map Template.looseContent =
        some (colouredCall.content : Text.Loose) := by
      rw [hl]
      decide +kernel
    rw [ht.found] at hfound
    exact Option.some.inj hfound
  have hshape : t.content = colouredCall.content := congrArg Text.Loose.shape hcontent
  have hdraw := (draw_content t 100).1 (congrArg Text.Loose.halves hcontent)
  refine ⟨l, t, hrun, hget, perform_of_answers hrun.sound trivial (.display ?_), ?_, ?_⟩
  · exact (getDefault_of_parse l (k := ⟨.catch2, .autoMain⟩) hF hS).trans hget
  · rw [hdraw]
  · rw [hdraw, hshape]
    decide

end EntryTemplates.CommandLine
