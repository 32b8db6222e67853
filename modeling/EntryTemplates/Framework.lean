/-
**Test frameworks, entry styles and what a template for them must contain.**

Main definitions:

* `EntryTemplates.Framework` — the test frameworks;
* `EntryTemplates.Style` — whether the framework provides `main` or the template does;
* `EntryTemplates.Profile` — the header and the markers that a framework asks for;
* `EntryTemplates.Framework.profile` — the profile of each framework.
-/

import EntryTemplates.Vocabulary

set_option relaxedAutoImplicit false
set_option autoImplicit false

namespace EntryTemplates

/-- The test frameworks. -/
inductive Framework where
  | catch2
  | doctest
  | googletest
  deriving DecidableEq, Repr

/-- Where the entry point of a test program comes from. -/
inductive Style where
  /-- The framework provides `main`. -/
  | autoMain
  /-- The template defines `main`. -/
  | customMain
  deriving DecidableEq, Repr

instance : Vocabulary Framework where
  all := [.catch2, .doctest, .googletest]
  name
    | .catch2 => "catch2"
    | .doctest => "doctest"
    | .googletest => "googletest"
  title := "TestFramework"

instance : Vocabulary Style where
  all := [.autoMain, .customMain]
  name
    | .autoMain => "auto_main"
    | .customMain => "custom_main"
  title := "MainStyle"

/-- The name of a framework. -/
def Framework.name (f : Framework) : String := Vocabulary.name f

/-- All frameworks. -/
def Framework.all : List Framework := Vocabulary.all

/-- The name of a style. -/
def Style.name (s : Style) : String := Vocabulary.name s

/-- All styles. -/
def Style.all : List Style := Vocabulary.all

@[simp] theorem Framework.mem_all (f : Framework) : f ∈ Framework.all := by
  cases f <;> decide

@[simp] theorem Style.mem_all (s : Style) : s ∈ Style.all := by
  cases s <;> decide

/-- Whether a template of this style defines `main`. -/
def Style.definesMain : Style → Bool
  | .autoMain => false
  | .customMain => true

/-- The style for tests that do or do not need a `main` of their own. -/
def Style.ofNeed (needsMain : Bool) : Style := if needsMain then .customMain else .autoMain

@[simp] theorem Style.definesMain_ofNeed (b : Bool) : (Style.ofNeed b).definesMain = b := by
  cases b <;> rfl

/-- What a template is filed under. -/
structure Key where
  framework : Framework
  style : Style
  deriving DecidableEq, Repr

/-- The name of a key: framework and style with a slash between them. -/
def Key.name (k : Key) : String := k.framework.name ++ "/" ++ k.style.name

/-- All keys, framework by framework. -/
def Key.all : List Key := Framework.all.flatMap fun f => Style.all.map fun s => ⟨f, s⟩

@[simp] theorem Key.mem_all (k : Key) : k ∈ Key.all := by
  obtain ⟨f, s⟩ := k
  cases f <;> cases s <;> decide

/-- What a framework asks of its templates. -/
structure Profile where
  framework : Framework
  /-- The framework's name as people write it. -/
  displayName : String
  /-- The header that every template includes. -/
  header : String
  /-- What every template contains. -/
  markers : List String
  /-- What a template of a style contains besides. -/
  styleMarkers : Style → List String

/-- Everything that a template of a style contains. -/
def Profile.required (p : Profile) (s : Style) : List String := p.markers ++ p.styleMarkers s

/-- The profile of each framework. -/
def Framework.profile : Framework → Profile
  | .catch2 =>
      { framework := .catch2
        displayName := "Catch2"
        header := "catch2/catch_test_macros.hpp"
        markers := ["TEST_CASE"]
        styleMarkers
          | .autoMain => []
          | .customMain => ["Catch::Session"] }
  | .doctest =>
      { framework := .doctest
        displayName := "doctest"
        header := "doctest/doctest.h"
        markers := ["TEST_CASE", "DOCTEST_CONFIG_IMPLEMENT"]
        styleMarkers
          | .autoMain => ["DOCTEST_CONFIG_IMPLEMENT_WITH_MAIN"]
          | .customMain => ["doctest::Context"] }
  | .googletest =>
      { framework := .googletest
        displayName := "GoogleTest"
        header := "gtest/gtest.h"
        markers := ["TEST("]
        styleMarkers
          | .autoMain => []
          | .customMain => ["RUN_ALL_TESTS()", "testing::InitGoogleTest"] }

@[simp] theorem Framework.profile_framework (f : Framework) : f.profile.framework = f := by
  cases f <;> rfl

end EntryTemplates
