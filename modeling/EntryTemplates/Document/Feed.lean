/-
**What a stage of reading hands to the next one.**

A stage that fails has handed on everything before its failure, so that the next stage may find an
earlier one.  A feed is a list of items together with the failure behind the last of them.

Main definitions:

* `EntryTemplates.Document.Feed` — items, and the failure that ends them;
* `EntryTemplates.Document.Feed.peek`, `EntryTemplates.Document.Feed.next` — the first item, and
  the feed after it.
-/

import EntryTemplates.Document.Failure

set_option relaxedAutoImplicit false
set_option autoImplicit false

namespace EntryTemplates.Document

/-- Items, and the failure that ends them. -/
structure Feed (α : Type) where
  items : List α
  failure : Failure
  deriving Repr

namespace Feed

variable {α : Type}

/-- The first item and the feed after it. -/
def next (f : Feed α) : Except Failure (α × Feed α) :=
  match f.items with
  | a :: rest => .ok (a, { f with items := rest })
  | [] => .error f.failure

/-- The first item. -/
def peek (f : Feed α) : Except Failure α :=
  match f.items with
  | a :: _ => .ok a
  | [] => .error f.failure

/-- The feed after its first item. -/
def skip (f : Feed α) : Feed α := { f with items := f.items.tail }

@[simp] theorem next_cons (a : α) (rest : List α) (e : Failure) :
    (Feed.mk (a :: rest) e).next = .ok (a, ⟨rest, e⟩) := rfl

@[simp] theorem next_nil (e : Failure) : (Feed.mk ([] : List α) e).next = .error e := rfl

end Feed

end EntryTemplates.Document
