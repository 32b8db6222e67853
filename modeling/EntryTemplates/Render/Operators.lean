/-
**Operators of the template language.**

Main definitions:

* `EntryTemplates.Render.Value.equals`, `less` — comparing values;
* `EntryTemplates.Render.Value.operate` — arithmetic, and putting sequences together;
* `EntryTemplates.Render.Value.within` — membership;
* `EntryTemplates.Render.Value.itemOf?` — a part of a value.
-/

import EntryTemplates.Number.Quotient
import EntryTemplates.Render.Escape
import EntryTemplates.Render.Program
import EntryTemplates.Text.Search

set_option relaxedAutoImplicit false
set_option autoImplicit false

namespace EntryTemplates.Render

namespace Value

/-- A value that is not there makes an operation fail. -/
def ensureDefined : Value → Except Failure Unit
  | .undefined message _ => .error (.undefined message)
  | _ => .ok ()

/-! ### Equality -/

/-- A number as a quotient. -/
def quotient? : Value → Option (Int × Nat)
  | .bool b => some (if b then 1 else 0, 1)
  | .int i => some (i, 1)
  | .float x => Number.quotient? x
  | _ => none

/-- A number as a floating-point number. -/
def float? : Value → Option Float
  | .bool b => some (if b then 1 else 0)
  | .int i => some (Float.ofInt i)
  | .float x => some x
  | _ => none

/-- Whether two numbers are equal. -/
def sameNumber (a b : Value) : Bool :=
  match a.quotient?, b.quotient? with
  | some (n, d), some (n', d') => n * d' = n' * d
  | _, _ =>
      match a, b with
      | .float x, .float y => x == y
      | _, _ => false

/-- Whether two data of other kinds are equal: sets are if they hold the same. -/
def sameDatum : Datum → Datum → Bool
  | .set xs, .set ys => xs.length = ys.length && xs.all ys.contains
  | d, e => d == e

mutual

/-- **Whether two values are equal.** -/
def equals : Value → Value → Except Failure Bool
  | .undefined message true, _ => .error (.undefined message)
  | .undefined _ false, .undefined message true => .error (.undefined message)
  | .undefined _ false, .undefined _ false => .ok true
  | .undefined _ false, _ => .ok false
  | .null, .null => .ok true
  | .text s _, .text t _ => .ok (s = t)
  | .list xs, .list ys => equalItems xs ys
  | .tuple xs, .tuple ys => equalItems xs ys
  | .map xs, .map ys =>
      if xs.length = ys.length then equalEntries xs ys else .ok false
  | .range a b c, .range a' b' c' => .ok (rangeCount a b c = rangeCount a' b' c' && a = a' && c = c')
  | .view _ xs, .view _ ys => equalItems xs ys
  | .builtin b, .builtin c => .ok (b = c)
  | .object n, .object m => .ok (n = m)
  | .datum d, .datum e => .ok (sameDatum d e)
  | _, .undefined message true => .error (.undefined message)
  | a, b => .ok (sameNumber a b)

/-- Whether two lists of values are equal. -/
def equalItems : List Value → List Value → Except Failure Bool
  | [], [] => .ok true
  | x :: xs, y :: ys => do if ← equals x y then equalItems xs ys else return false
  | _, _ => .ok false

/-- Whether all entries of a mapping are found in another one. -/
def equalEntries : List (Value × Value) → List (Value × Value) → Except Failure Bool
  | [], _ => .ok true
  | (k, v) :: rest, other => do
      if ← equalEntry k v other then equalEntries rest other else return false

/-- Whether an entry is found in a mapping. -/
def equalEntry (k v : Value) : List (Value × Value) → Except Failure Bool
  | [] => .ok false
  | (k', v') :: rest => do
      if ← equals k k' then equals v v' else equalEntry k v rest

end

/-- Whether a value is one of several. -/
def isOneOf (v : Value) : List Value → Except Failure Bool
  | [] => .ok false
  | x :: xs => do if ← x.equals v then return true else isOneOf v xs

/-- The value under a key of a mapping. -/
def lookup? (key : Value) : List (Value × Value) → Except Failure (Option Value)
  | [] => .ok none
  | (k, v) :: rest => do if ← k.equals key then return some v else lookup? key rest

/-- The entries of a mapping with a key given a value: an equal key keeps its place. -/
def putEntry (key value : Value) : List (Value × Value) → Except Failure (List (Value × Value))
  | [] => .ok [(key, value)]
  | (k, v) :: rest => do
      if ← k.equals key then return (k, value) :: rest
      else return (k, v) :: (← putEntry key value rest)

/-! ### Keys -/

/-- The failure of a value that cannot be a key. -/
def noKey (typeOf : Nat → String) (v : Value) : Except Failure Unit :=
  wrongType ("unhashable type: '" ++ v.typeName typeOf ++ "'")

mutual

/-- A value that cannot be a key makes an operation fail. -/
def ensureKey (typeOf : Nat → String) : Value → Except Failure Unit
  | .undefined message true => .error (.undefined message)
  | .tuple items => ensureKeys typeOf items
  | .view .values _ => .ok ()
  | .list items => noKey typeOf (.list items)
  | .map entries => noKey typeOf (.map entries)
  | .view kind items => noKey typeOf (.view kind items)
  | .slice a b c => noKey typeOf (.slice a b c)
  | .datum (.set items) => noKey typeOf (.datum (.set items))
  | .datum (.again curly) => noKey typeOf (.datum (.again curly))
  | _ => .ok ()

/-- Values among which there is one that cannot be a key make an operation fail. -/
def ensureKeys (typeOf : Nat → String) : List Value → Except Failure Unit
  | [] => .ok ()
  | v :: vs => do
      ensureKey typeOf v
      ensureKeys typeOf vs

end

/-! ### Membership -/

/-- **Whether a value is in another one.** -/
def within (typeOf : Nat → String) (v : Value) : Value → Except Failure Bool
  | .undefined message isStrict => if isStrict then .error (.undefined message) else .ok false
  | .text s _ =>
      match v with
      | .text t _ => .ok (Text.occursIn t.toList s.toList)
      | v => wrongType ("'in <string>' requires string as left operand, not " ++ v.typeName typeOf)
  | .map entries => do
      ensureKey typeOf v
      return (← lookup? v entries).isSome
  | .list items => isOneOf v items
  | .tuple items => isOneOf v items
  | .view .keys items => do
      ensureKey typeOf v
      isOneOf v items
  | .view _ items => isOneOf v items
  | .stream items => isOneOf v items
  | .range a b c => isOneOf v (rangeItems a b c)
  | w => wrongType ("argument of type '" ++ w.typeName typeOf ++ "' is not iterable")

/-! ### Order -/

/-- The failure of comparing values that have no order. -/
def noOrder {α : Type} (typeOf : Nat → String) (sign : String) (a b : Value) : Except Failure α :=
  wrongType ("'" ++ sign ++ "' not supported between instances of '" ++ a.typeName typeOf
    ++ "' and '" ++ b.typeName typeOf ++ "'")

/-- How a comparison was written: its sign, and whether its operands are exchanged. -/
structure Written where
  sign : String
  isExchanged : Bool

/-- Whether a number is less than another one, or equal to it where `orEqual` says so. -/
def numberLess (orEqual : Bool) (a b : Value) : Option Bool :=
  match a.quotient?, b.quotient? with
  | some (n, d), some (n', d') =>
      some (if orEqual then n * d' ≤ n' * d else n * d' < n' * d)
  | _, _ =>
      match a.float?, b.float? with
      | some x, some y => some (if orEqual then x ≤ y else x < y)
      | _, _ => none

/-- Whether a text comes before another one in the order of code points. -/
def textLess (orEqual : Bool) (s t : String) : Bool := if orEqual then !(t < s) else s < t

mutual

/-- **Whether a value is less than another one**, or equal to it where `orEqual` says so; reports
show the comparison as it was written. -/
def less (typeOf : Nat → String) (w : Written) (orEqual : Bool) :
    Value → Value → Except Failure Bool
  | .undefined message _, _ => .error (.undefined message)
  | _, .undefined message _ => .error (.undefined message)
  | .text s _, .text t _ => .ok (textLess orEqual s t)
  | .list xs, .list ys => lessItems typeOf w orEqual xs ys
  | .tuple xs, .tuple ys => lessItems typeOf w orEqual xs ys
  | a, b =>
      match numberLess orEqual a b with
      | some r => .ok r
      | none => if w.isExchanged then noOrder typeOf w.sign b a else noOrder typeOf w.sign a b

/-- Whether a list of values is less than another one: the first difference decides. -/
def lessItems (typeOf : Nat → String) (w : Written) (orEqual : Bool) :
    List Value → List Value → Except Failure Bool
  | [], [] => .ok orEqual
  | [], _ :: _ => .ok true
  | _ :: _, [] => .ok false
  | x :: xs, y :: ys => do
      if ← equals x y then lessItems typeOf w orEqual xs ys
      else less typeOf w orEqual x y

end

/-- **The answer of a comparison.** -/
def compare (typeOf : Nat → String) (c : Comparison) (a b : Value) : Except Failure Bool :=
  match c with
  | .equal => a.equals b
  | .notEqual => (a.equals b).map not
  | .less => less typeOf ⟨"<", false⟩ false a b
  | .lessOrEqual => less typeOf ⟨"<=", false⟩ true a b
  | .greater => do
      ensureDefined a
      less typeOf ⟨">", true⟩ false b a
  | .greaterOrEqual => do
      ensureDefined a
      less typeOf ⟨">=", true⟩ true b a
  | .within => within typeOf a b
  | .notWithin => (within typeOf a b).map not

/-! ### Arithmetic -/

/-- The failure of an operation on values of unsuitable types. -/
def unsupported {α : Type} (typeOf : Nat → String) (sign : String) (a b : Value) :
    Except Failure α :=
  wrongType ("unsupported operand type(s) for " ++ sign ++ ": '" ++ a.typeName typeOf ++ "' and '"
    ++ b.typeName typeOf ++ "'")

/-- Two numbers, as integers if both are. -/
inductive Pair where
  | ints (a b : Int)
  | floats (x y : Float)

/-- An integer, if a value counts as one. -/
def int? : Value → Option Int
  | .bool b => some (if b then 1 else 0)
  | .int i => some i
  | _ => none

/-- Two values as numbers. -/
def numbers? (a b : Value) : Option Pair :=
  match a.int?, b.int? with
  | some i, some j => some (.ints i j)
  | _, _ =>
      match a.float?, b.float? with
      | some x, some y => some (.floats x y)
      | _, _ => none

/-- A division by zero. -/
def byZero {α : Type} (message : String) : Except Failure α :=
  .error (.mishap .divisionByZero message)

/-- The exact remainder that has the sign of the dividend. -/
def exactRemainder (x y : Float) : Float :=
  match Number.quotient? x, Number.quotient? y with
  | some (a, b), some (c, d) =>
      (Float.ofInt (Int.tmod (a * d) (c * b))).scaleB (-((b * d).log2 : Int))
  | some _, none => if y.isNaN then y else x
  | none, _ => 0.0 / 0.0

/-- A zero with the sign of a number. -/
def zeroLike (x : Float) : Float := if x.toBits >>> 63 = 1 then -0.0 else 0.0

/-- The quotient rounded down, and the remainder that has the sign of the divisor. -/
def floatDivMod (x y : Float) : Float × Float :=
  let r := exactRemainder x y
  let q := (x - r) / y
  let (q, r) :=
    if r == 0 then (q, zeroLike y)
    else if (y < 0) != (r < 0) then (q - 1, r + y)
    else (q, r)
  if q == 0 then (zeroLike (x / y), r)
  else (if q - q.floor > 0.5 then q.floor + 1 else q.floor, r)

/-- The power of two numbers; a finite power of finite numbers must not be too large. -/
def floatPower (x y : Float) : Except Failure Value :=
  let z := Float.pow x y
  if x == 0 && y < 0 then byZero "0.0 cannot be raised to a negative power"
  else if z.isInf && x.isFinite && y.isFinite then
    .error (.mishap .overflow "(34, 'Numerical result out of range')")
  else .ok (.float z)

/-- A text, escaped unless it is safe. -/
def escapedText (s : String) (isSafe : Bool) : String := if isSafe then s else escapeText s

/-- Two texts put together; a safe one makes the other one safe. -/
def joinTexts (s : String) (a : Bool) (t : String) (b : Bool) : Value :=
  if a || b then .text (escapedText s a ++ escapedText t b) true else .text (s ++ t) false

/-- A list so many times over. -/
def repeated {α : Type} (n : Int) (items : List α) : List α :=
  (List.replicate n.toNat items).flatten

/-- A sequence so many times over. -/
def times? (v : Value) (n : Int) : Option Value :=
  match v with
  | .text s isSafe => some (.text (String.ofList (repeated n s.toList)) isSafe)
  | .list items => some (.list (repeated n items))
  | .tuple items => some (.tuple (repeated n items))
  | _ => none

/-- Whether a value is a sequence that can be repeated. -/
def isSequence : Value → Bool
  | .text .. => true
  | .list _ => true
  | .tuple _ => true
  | _ => false

/-- The power of two integers. -/
def intPower (a b : Int) : Except Failure Value :=
  if 0 ≤ b then .ok (.int (Int.pow a b.toNat))
  else if a = 0 then byZero "0.0 cannot be raised to a negative power"
  else .ok (.float (Float.pow (Float.ofInt a) (Float.ofInt b)))

/-- The sum of two values. -/
def sum (typeOf : Nat → String) (a b : Value) : Except Failure Value :=
  match numbers? a b with
  | some (.ints i j) => .ok (.int (i + j))
  | some (.floats x y) => .ok (.float (x + y))
  | none =>
      match a, b with
      | .text s p, .text t q => .ok (joinTexts s p t q)
      | .list xs, .list ys => .ok (.list (xs ++ ys))
      | .tuple xs, .tuple ys => .ok (.tuple (xs ++ ys))
      | .text _ false, b =>
          wrongType ("can only concatenate str (not \"" ++ b.typeName typeOf ++ "\") to str")
      | .list _, b =>
          wrongType ("can only concatenate list (not \"" ++ b.typeName typeOf ++ "\") to list")
      | .tuple _, b =>
          wrongType ("can only concatenate tuple (not \"" ++ b.typeName typeOf ++ "\") to tuple")
      | a, b => unsupported typeOf "+" a b

/-- The product of two values. -/
def product (typeOf : Nat → String) (a b : Value) : Except Failure Value :=
  match numbers? a b with
  | some (.ints i j) => .ok (.int (i * j))
  | some (.floats x y) => .ok (.float (x * y))
  | none =>
      match a.int?, b.int? with
      | some n, none => match b.times? n with
          | some v => .ok v
          | none => unsupported typeOf "*" a b
      | none, some n => match a.times? n with
          | some v => .ok v
          | none => unsupported typeOf "*" a b
      | _, _ =>
          if a.isSequence then
            wrongType ("can't multiply sequence by non-int of type '" ++ b.typeName typeOf ++ "'")
          else if b.isSequence then
            wrongType ("can't multiply sequence by non-int of type '" ++ a.typeName typeOf ++ "'")
          else unsupported typeOf "*" a b

/-- An operation on two numbers. -/
def operateNumbers (op : Operation) (p : Pair) : Except Failure Value :=
  match op, p with
  | .add, .ints i j => .ok (.int (i + j))
  | .add, .floats x y => .ok (.float (x + y))
  | .sub, .ints i j => .ok (.int (i - j))
  | .sub, .floats x y => .ok (.float (x - y))
  | .mul, .ints i j => .ok (.int (i * j))
  | .mul, .floats x y => .ok (.float (x * y))
  | .div, .ints i j =>
      if j = 0 then byZero "division by zero" else .ok (.float (Float.ofInt i / Float.ofInt j))
  | .div, .floats x y => if y == 0 then byZero "float division by zero" else .ok (.float (x / y))
  | .floorDiv, .ints i j =>
      if j = 0 then byZero "integer division or modulo by zero" else .ok (.int (Int.fdiv i j))
  | .floorDiv, .floats x y =>
      if y == 0 then byZero "float floor division by zero" else .ok (.float (floatDivMod x y).1)
  | .mod, .ints i j =>
      if j = 0 then byZero "integer modulo by zero" else .ok (.int (Int.fmod i j))
  | .mod, .floats x y => if y == 0 then byZero "float modulo" else .ok (.float (floatDivMod x y).2)
  | .pow, .ints i j => intPower i j
  | .pow, .floats x y => floatPower x y

/-- The sign of an operation in reports. -/
def operationSign : Operation → String
  | .add => "+"
  | .sub => "-"
  | .mul => "*"
  | .div => "/"
  | .floorDiv => "//"
  | .mod => "%"
  | .pow => "** or pow()"

/-- **An operation on two values.** -/
def operate (typeOf : Nat → String) (op : Operation) (a b : Value) : Except Failure Value := do
  ensureDefined a
  ensureDefined b
  match op with
  | .add => sum typeOf a b
  | .mul => product typeOf a b
  | op =>
      match numbers? a b with
      | some p => operateNumbers op p
      | none => unsupported typeOf (operationSign op) a b

/-- A value with the opposite sign. -/
def opposite (typeOf : Nat → String) (a : Value) : Except Failure Value := do
  ensureDefined a
  match a with
  | .float x => return .float (-x)
  | a =>
      match a.int? with
      | some i => return .int (-i)
      | none => wrongType ("bad operand type for unary -: '" ++ a.typeName typeOf ++ "'")

/-- A number with a plus sign before it. -/
def positive (typeOf : Nat → String) (a : Value) : Except Failure Value := do
  ensureDefined a
  match a with
  | .float x => return .float x
  | a =>
      match a.int? with
      | some i => return .int i
      | none => wrongType ("bad operand type for unary +: '" ++ a.typeName typeOf ++ "'")

/-! ### Parts -/

/-- The place that an index means among `count` ones; a negative index counts from the end. -/
def place? (count : Nat) (index : Int) : Option Nat :=
  let i := if index < 0 then index + count else index
  if 0 ≤ i ∧ i < count then some i.toNat else none

/-- A bound of a slice, between `low` and `high`. -/
def bound (count : Nat) (low high standard : Int) : Value → Option Int
  | .null => some standard
  | v => v.int?.map fun i => max low (min high (if i < 0 then i + count else i))

/-- The places that a slice means among `count` ones. -/
def slicePlaces? (count : Nat) (start stop step : Value) : Option (List Nat) := do
  let by_ ← match step with
    | .null => some 1
    | v => v.int?
  if by_ = 0 then none
  else
    let n : Int := count
    let a ← if 0 < by_ then bound count 0 n 0 start else bound count (-1) (n - 1) (n - 1) start
    let b ← if 0 < by_ then bound count 0 n n stop
      else match stop with
        | .null => some (-1)
        | v => bound count (-1) (n - 1) (-1) v
    return (List.range (rangeCount a b by_)).map fun (k : Nat) => (a + by_ * k).toNat

/-- The items at some places. -/
def pick {α : Type} (items : List α) (places : List Nat) : List α :=
  let all := items.toArray
  places.filterMap fun i => all[i]?

/-- The items that an index means: one of them, or a slice. -/
def parts? {α β : Type} (items : List α) (index : Value) (one : α → β) (many : List α → β) :
    Option β :=
  match index with
  | .slice a b c => (slicePlaces? items.length a b c).map fun places => many (pick items places)
  | index => do
      let i ← place? items.length (← index.int?)
      return one (← items[i]?)

/-- **The part of a value that an index means**, if there is one. -/
def itemOf? (v index : Value) : Except Failure (Option Value) :=
  match v with
  | .map entries =>
      match index.ensureKey fun _ => "" with
      | .ok () => lookup? index entries
      | .error (.undefined message) => .error (.undefined message)
      -- what cannot be a key is not found
      | .error _ => .ok none
  | .list items => .ok (parts? items index id .list)
  | .tuple items => .ok (parts? items index id .tuple)
  | .text s isSafe =>
      .ok (parts? s.toList index (fun c => .text (String.singleton c) isSafe)
        fun cs => .text (String.ofList cs) isSafe)
  | .range a b c => .ok (parts? (rangeItems a b c) index id .list)
  | _ => .ok none

end Value

end EntryTemplates.Render
