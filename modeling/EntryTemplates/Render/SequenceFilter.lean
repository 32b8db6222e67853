/-
**Filters on sequences and numbers.**

Main definitions:

* `EntryTemplates.Render.sortBy` — items in the order of their keys;
* `EntryTemplates.Render.groupRuns`, `unique`, `batches`, `slices` — sequences from sequences;
* `EntryTemplates.Render.best` — the least or the greatest item;
* `EntryTemplates.Render.lengthOf`, `rounded`, `asInteger`, `asFloat` — numbers from values.
-/

import EntryTemplates.Render.Test

set_option relaxedAutoImplicit false
set_option autoImplicit false

namespace EntryTemplates.Render

/-- A text in lower case; other values as they are. -/
def withoutCase : Value → Value
  | .text s isSafe => .text (String.ofList (Text.lower s.toList)) isSafe
  | v => v

/-- What items are compared by: the part that a path leads to, and for texts without regard to
case unless `sensitive` says otherwise. -/
def keyOf (steps : Value) (standard : Option Value) (sensitive : Bool) (v : Value) :
    Eval Value := do
  let key ← path steps standard v
  return if sensitive then key else withoutCase key

/-- What items are sorted by: the parts that several paths lead to. -/
def keysOf (steps : Value) (sensitive : Bool) (v : Value) : Eval Value := do
  let paths : List Value := match steps with
    | .text s _ => (Text.splitAtChar ',' s.toList).map fun p => .ofString (String.ofList p)
    | v => [v]
  return .list (← paths.mapM fun p => keyOf p none sensitive v)

/-! ### Order -/

/-- Inserts an item behind the last one that its key does not precede; the items are given from the
last one back. -/
def insertBack (key item : Value) : List (Value × Value) → Eval (List (Value × Value))
  | [] => return [(key, item)]
  | (k, v) :: rest => do
      if ← Value.compare (← get).typeOf .less key k then
        return (k, v) :: (← insertBack key item rest)
      else return (key, item) :: (k, v) :: rest

/-- Items with their keys put one after another where they belong. -/
def insertAll : List (Value × Value) → List (Value × Value) → Eval (List (Value × Value))
  | [], done => return done
  | (k, v) :: rest, done => do insertAll rest (← insertBack k v done)

/-- **Items in the order of their keys**; items with equal keys keep their order. -/
def sortBy (key : Value → Eval Value) (backwards : Bool) (items : List Value) :
    Eval (List (Value × Value)) := do
  let keyed ← items.mapM fun v => do return (← key v, v)
  let sorted ← insertAll (if backwards then keyed.reverse else keyed) []
  return if backwards then sorted else sorted.reverse

/-- The item whose key comes before all others by a comparison. -/
def bestFrom (c : Comparison) (key : Value → Eval Value) (k v : Value) : List Value → Eval Value
  | [] => return v
  | x :: rest => do
      let kx ← key x
      if ← Value.compare (← get).typeOf c kx k then bestFrom c key kx x rest
      else bestFrom c key k v rest

/-- **The least or the greatest item.** -/
def best (c : Comparison) (key : Value → Eval Value) (items : List Value) : Eval Value := do
  match items with
  | [] => return absent "No aggregated item, sequence was empty."
  | v :: rest => bestFrom c key (← key v) v rest

/-! ### Sequences -/

/-- Neighbours with equal keys put together. -/
def groupRuns : List (Value × Value) → Eval (List (Value × List Value))
  | [] => return []
  | (k, v) :: rest => do
      match ← groupRuns rest with
      | (k', vs) :: more =>
          if ← Value.equals k k' then return (k, v :: vs) :: more
          else return (k, [v]) :: (k', vs) :: more
      | [] => return [(k, [v])]

/-- The first items with their keys. -/
def uniqueFrom (key : Value → Eval Value) : List Value → List Value → Eval (List Value)
  | _, [] => return []
  | seen, v :: rest => do
      let k ← key v
      Eval.ensureKey k
      if ← Value.isOneOf k seen then uniqueFrom key seen rest
      else return v :: (← uniqueFrom key (k :: seen) rest)

/-- Items in groups of `count`, the last one filled up; `fuel` exceeds their number. -/
def batches (count : Nat) (fill : Value) : Nat → List Value → List Value
  | 0, _ => []
  | _ + 1, [] => []
  | fuel + 1, items =>
      let group := items.take (max count 1)
      let group := match fill with
        | .null => group
        | v => group ++ List.replicate (count - group.length) v
      .list group :: batches count fill fuel (items.drop (max count 1))

/-- Items in `count` groups of nearly equal size, the shorter ones filled up. -/
def slices (count : Nat) (fill : Value) (items : List Value) : List Value :=
  let size := items.length / count
  let extra := items.length % count
  (List.range count).map fun k =>
    let start := k * size + min k extra
    let group := (items.drop start).take (size + if k < extra then 1 else 0)
    match fill with
    | .null => .list group
    | v => .list (if extra ≤ k then group ++ [v] else group)

/-- The items of a value that has an end to begin from. -/
def reversible (v : Value) : Eval (List Value) := do
  match v with
  | .stream _ => Eval.wrongType "'generator' object is not reversible"
  | .undefined .. | .text .. | .list _ | .tuple _ | .map _ | .range .. | .view .. => Eval.items v
  | v => Eval.wrongType ("'" ++ (← Eval.typeName v) ++ "' object is not reversible")

/-! ### Numbers -/

/-- **The length of a value.** -/
def lengthOf (v : Value) : Eval Int := do
  match v with
  | .stream _ => Eval.wrongType "object of type 'generator' has no len()"
  | .undefined .. | .text .. | .list _ | .tuple _ | .map _ | .range .. | .view .. =>
      return (← Eval.items v).length
  | v =>
      let wrong : Eval Int := do
        Eval.wrongType ("object of type '" ++ (← Eval.typeName v) ++ "' has no len()")
      match v with
      | .object n =>
          match ← Eval.object? n with
          | some (.loop l) => return l.items.size
          | _ => wrong
      | _ => wrong

/-- The value of a quotient rounded to so many decimals. -/
def roundedFloat (x : Float) (decimals : Int) : Float :=
  match Number.parts x with
  | .error _ => x
  | .ok (negative, n, d) =>
      let m := Number.scaledQuotient n d decimals
      let y := if decimals < 0 then Float.ofInt (m * Int.pow 10 (-decimals).toNat)
        else Float.ofScientific m true decimals.toNat
      if negative then -y else y

/-- An integer rounded to tens, hundreds and so on; a tie goes to the even one. -/
def roundedInt (i : Int) (decimals : Int) : Int :=
  if 0 ≤ decimals then i
  else
    let unit := Nat.pow 10 (-decimals).toNat
    let m : Int := Number.roundedQuotient i.natAbs unit * unit
    if i < 0 then -m else m

/-- **A number rounded.** -/
def rounded (v : Value) (decimals : Value) (how : Value) : Eval Value := do
  let method ← Eval.text how
  let typeOf := (← get).typeOf
  if method = "common" then
    match v with
    | .undefined message _ => Eval.missing message
    | .float x =>
        match decimals with
        | .null => return .int ((truncated? (.float (roundedFloat x 0))).getD 0)
        | d => return .float (roundedFloat x (← asInt d))
    | v =>
        match v.int?, decimals with
        | some i, .null => return .int i
        | some i, d => return .int (roundedInt i (← asInt d))
        | none, _ =>
            Eval.wrongType ("type " ++ (← Eval.typeName v) ++ " doesn't define __round__ method")
  else if method = "ceil" || method = "floor" then
    let unit ← Value.operate typeOf .pow (.int 10) decimals
    match ← Value.operate typeOf .mul v unit with
    | .float x =>
        let whole := if method = "ceil" then x.ceil else x.floor
        Value.operate typeOf .div (.int ((truncated? (.float whole)).getD 0)) unit
    | w =>
        match w.int? with
        | some i => Value.operate typeOf .div (.int i) unit
        | none => Eval.wrongType ("must be real number, not " ++ (← Eval.typeName w))
  else Eval.fail .filterArgument "method must be common, ceil or floor"

/-- **A value as an integer**, or a standard if it is none. -/
def asInteger (v standard base : Value) : Eval Value := do
  match v with
  | .undefined message _ => Eval.missing message
  | .text s _ =>
      match Number.readInt? (← asInt base).toNat s.toList with
      | some i => return .int i
      | none =>
          match (Number.readFloat? s.toList).bind fun x => truncated? (.float x) with
          | some i => return .int i
          | none => return standard
  | v =>
      match truncated? v with
      | some i => return .int i
      | none => return standard

/-- **A value as a floating-point number**, or a standard if it is none. -/
def asFloat (v standard : Value) : Eval Value := do
  match v with
  | .undefined message _ => Eval.missing message
  | .text s _ =>
      match Number.readFloat? s.toList with
      | some x => return .float x
      | none => return standard
  | v =>
      match v.float? with
      | some x => return .float x
      | none => return standard

/-- The sum of values, from a start on. -/
def total : Value → List Value → Eval Value
  | acc, [] => return acc
  | acc, v :: rest => do total (← Value.operate (← get).typeOf .add acc v) rest

end EntryTemplates.Render
