/-
**The widths of columns.**

Every column gets what its longest line needs, with a blank on either side.  If that is too much in
all, the widest columns that may be broken shrink until they are as wide as the next ones, and so
on; if that is not enough, all columns shrink alike.

Main definitions:

* `EntryTemplates.Console.shrink` — widths reduced by an amount in given shares;
* `EntryTemplates.Console.narrow` — the widest columns reduced;
* `EntryTemplates.Console.columnWidths` — **the widths of columns**.
-/

import EntryTemplates.Number.Quotient

set_option relaxedAutoImplicit false
set_option autoImplicit false

namespace EntryTemplates.Console

/-- What a width has to give: its share, the most that it gives, the width. -/
structure Giver where
  share : Nat
  most : Nat
  width : Nat
  deriving DecidableEq, Repr

/-- Widths of which `amount` is taken, when the shares of all are `shares`: each gives its share of
what is still to be taken, rounded to the nearest. -/
def shrinkBy (amount shares : Nat) : List Giver → List Nat
  | [] => []
  | g :: gs =>
      if g.share = 0 ∨ shares = 0 then g.width :: shrinkBy amount shares gs
      else
        let part := min g.most (Number.roundedQuotient (g.share * amount) shares)
        (g.width - part) :: shrinkBy (amount - part) (shares - g.share) gs

/-- The sum of some numbers. -/
def total (l : List Nat) : Nat := l.foldl (· + ·) 0

/-- Widths reduced by an amount; who has nothing to give takes no share. -/
def shrink (amount : Nat) (givers : List Giver) : List Nat :=
  let givers := givers.map fun g => if g.most = 0 then { g with share := 0 } else g
  shrinkBy amount (total (givers.map Giver.share)) givers

theorem length_shrinkBy (amount shares : Nat) (givers : List Giver) :
    (shrinkBy amount shares givers).length = givers.length := by
  fun_induction shrinkBy amount shares givers <;> simp_all

@[simp] theorem length_shrink (amount : Nat) (givers : List Giver) :
    (shrink amount givers).length = givers.length := by
  simp [shrink, length_shrinkBy]

/-- The greatest of some numbers. -/
def greatest (l : List Nat) : Nat := l.foldl max 0

/-- The widest columns that may be broken reduced until all fit in `limit`, or nothing is gained;
`fuel` is at least the sum of the widths. -/
def narrowWith (limit : Nat) (mayBreak : List Bool) : Nat → List Nat → List Nat
  | 0, widths => widths
  | fuel + 1, widths =>
      let excess := total widths - limit
      let soft := (widths.zip mayBreak).filterMap fun (w, soft) => if soft then some w else none
      let widest := greatest soft
      let step := widest - greatest (soft.filter (· ≠ widest))
      if excess = 0 ∨ step = 0 then widths
      else
        narrowWith limit mayBreak fuel
          (shrink excess ((widths.zip mayBreak).map fun (w, soft) =>
            ⟨if soft && w = widest then 1 else 0, min excess step, w⟩))

/-- The widest columns that may be broken reduced. -/
def narrow (limit : Nat) (mayBreak : List Bool) (widths : List Nat) : List Nat :=
  narrowWith limit mayBreak (total widths + 1) widths

/-- The width of a column whose longest line takes `content` cells, where there is room for
`limit`. -/
def neededWidth (limit content : Nat) : Nat := min limit (content + 2)

/-- A column that is to be measured. -/
structure Measured where
  mayBreak : Bool
  /-- The cells of its longest line. -/
  content : Nat
  deriving DecidableEq, Repr

/-- **The widths of columns** for which there is room for `limit` cells in all. -/
def columnWidths (limit : Nat) (columns : List Measured) : List Nat :=
  let widths := columns.map fun c => max 1 (neededWidth limit c.content)
  if total widths ≤ limit then widths
  else
    let narrowed := narrow limit (columns.map Measured.mayBreak) widths
    let excess := total narrowed - limit
    let even :=
      if excess = 0 then narrowed else shrink excess (narrowed.map fun w => ⟨1, w, w⟩)
    (even.zip columns).map fun (w, c) => neededWidth w c.content

end EntryTemplates.Console
