/-
**Templates for the entry point of a test program, and the check that they pass.**

Main definitions:

* `EntryTemplates.Template` — a template with what is known about it;
* `EntryTemplates.Problem` — what can be wrong with a template;
* `EntryTemplates.Template.problems` — everything that is wrong with a template, in a fixed order.
-/

import EntryTemplates.Framework
import EntryTemplates.Source.Brackets
import EntryTemplates.Source.Definitions
import EntryTemplates.Source.Includes
import EntryTemplates.Text.Loose

set_option relaxedAutoImplicit false
set_option autoImplicit false

namespace EntryTemplates

/-- A template with what is known about it. -/
structure Template where
  framework : Framework
  style : Style
  content : String
  description : String := ""
  /-- Where it comes from: `builtin`, or the path of its file. -/
  source : String := "builtin"
  author : String := ""
  version : String := "1.0.0"
  /-- The characters of the content that are halved: it shows U+FFFD for them. -/
  contentHalves : List Text.Half := []
  /-- The characters of the description that are halved. -/
  descriptionHalves : List Text.Half := []
  deriving DecidableEq, Repr

namespace Template

/-- The content with its halves. -/
def looseContent (t : Template) : Text.Loose := ⟨t.content, t.contentHalves⟩

/-- The description with its halves. -/
def looseDescription (t : Template) : Text.Loose := ⟨t.description, t.descriptionHalves⟩

/-- What a template is filed under. -/
def key (t : Template) : Key := ⟨t.framework, t.style⟩

/-- The name of a template. -/
def name (t : Template) : String := t.key.name

end Template

/-- The number of definitions of `main` that a style asks for. -/
def Style.expectedMains (s : Style) : Nat := if s.definesMain then 1 else 0

/-- What can be wrong with a template. -/
inductive Problem where
  /-- Nothing but white space. -/
  | empty
  /-- The framework's header is not included. -/
  | missingInclude (displayName header : String)
  /-- A required marker does not occur. -/
  | missingMarker (marker : String)
  /-- Too many or too few definitions of `main`. -/
  | mainCount (expected : Nat) (style : Style) (found : Nat)
  /-- The brackets do not pair up. -/
  | brackets (imbalance : Source.Imbalance)
  deriving DecidableEq, Repr

/-- The report on a problem. -/
def Problem.message : Problem → String
  | .empty => "template content is empty"
  | .missingInclude displayName header => s!"missing include of {displayName} header '{header}'"
  | .missingMarker marker => s!"missing marker '{marker}'"
  | .mainCount expected style found =>
      s!"expected {expected} main definition(s) for {style.name}, found {found}"
  | .brackets imbalance => imbalance.message

namespace Template

/-- The check of the include directive. -/
def includeProblems (p : Profile) (content : List Char) : List Problem :=
  if Source.includes p.header.toList content then []
  else [.missingInclude p.displayName p.header]

/-- The check of the markers. -/
def markerProblems (p : Profile) (s : Style) (content : List Char) : List Problem :=
  (p.required s).filterMap fun marker =>
    if Text.occursIn marker.toList content then none else some (.missingMarker marker)

/-- The check of the definitions of `main`. -/
def mainProblems (s : Style) (content : List Char) : List Problem :=
  let found := Source.mainCount content
  if found = s.expectedMains then [] else [.mainCount s.expectedMains s found]

/-- The check of the brackets. -/
def bracketProblems (content : List Char) : List Problem :=
  match Source.imbalance? content with
  | some imbalance => [.brackets imbalance]
  | none => []

/-- Everything that is wrong with a content that is not empty. -/
def contentProblems (f : Framework) (s : Style) (content : List Char) : List Problem :=
  includeProblems f.profile content ++ markerProblems f.profile s content
    ++ mainProblems s content ++ bracketProblems content

/-- **Everything that is wrong with a template.** -/
def problems (t : Template) : List Problem :=
  if Text.isBlankText t.content.toList then [.empty]
  else contentProblems t.framework t.style t.content.toList

/-- The reports on everything that is wrong with a template. -/
def problemTexts (t : Template) : List String := t.problems.map Problem.message

end Template

end EntryTemplates
