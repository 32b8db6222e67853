/-
**The methods of texts, sequences and mappings.**

Main definitions:

* `EntryTemplates.Render.callMethod` — what a method gives;
* `EntryTemplates.Render.change` — what a method gives that changes a list or a mapping, and the list
  or the mapping afterwards.
-/

import EntryTemplates.Render.Binding
import EntryTemplates.Render.Pattern

set_option relaxedAutoImplicit false
set_option autoImplicit false

namespace EntryTemplates.Render

/-! ### Arguments -/

/-- The least and the greatest number of arguments of a method of texts. -/
def textArity (name : String) : Nat × Nat :=
  if name ∈ ["center", "ljust", "rjust"] then (1, 2)
  else if name ∈ ["count", "find", "index", "rfind", "rindex", "startswith", "endswith"] then (1, 3)
  else if name ∈ ["join", "partition", "rpartition", "removeprefix", "removesuffix", "zfill"] then
    (1, 1)
  else if name ∈ ["strip", "lstrip", "rstrip", "splitlines"] then (0, 1)
  else if name ∈ ["split", "rsplit"] then (0, 2)
  else if name = "replace" then (2, 3)
  else (0, 0)

/-- Whether the number of arguments of a method is right; reports say so if it is not. -/
def checkArity (owner name : String) (arity : Nat × Nat) (count : Nat) : Eval Unit := do
  let (low, high) := arity
  if low ≤ count ∧ count ≤ high then return ()
  else if high = 0 then
    Eval.wrongType s!"{owner}.{name}() takes no arguments ({count} given)"
  else if low = 1 ∧ high = 1 then
    Eval.wrongType s!"{owner}.{name}() takes exactly one argument ({count} given)"
  else if count < low then
    Eval.wrongType (s!"{name} expected at least {low} argument" ++ (if low = 1 then "" else "s")
      ++ s!", got {count}")
  else
    Eval.wrongType (s!"{name} expected at most {high} argument" ++ (if high = 1 then "" else "s")
      ++ s!", got {count}")

/-- An argument that must be an integer. -/
def asInt (v : Value) : Eval Int := do
  match v with
  | .undefined message _ => Eval.missing message
  | v =>
      match v.int? with
      | some i => return i
      | none =>
          Eval.wrongType ("'" ++ (← Eval.typeName v)
            ++ "' object cannot be interpreted as an integer")

/-- An argument that must be a text. -/
def asChars (what : String) (v : Value) : Eval (List Char) := do
  match v with
  | .text s _ => return s.toList
  | v => Eval.wrongType (what ++ " must be str, not " ++ (← Eval.typeName v))

/-- A count that may be left open by a negative number. -/
def limit (length : Nat) (i : Int) : Nat := if i < 0 then length + 1 else i.toNat

/-- The place that a bound means among `count` characters. -/
def boundPlace (count : Nat) (standard : Int) (v : Value) : Int :=
  match v.int? with
  | some i => if i < 0 then max 0 (i + count) else i
  | none => standard

/-- The part of a text between the bounds that are given, and where it begins. -/
def window (s : List Char) (bounds : List Value) : Option (Nat × List Char) :=
  let count := s.length
  let start : Int := boundPlace count 0 (bounds.getD 0 .null)
  let stop : Int := min count (boundPlace count count (bounds.getD 1 .null))
  if start ≤ count then
    some (start.toNat, (s.drop start.toNat).take (stop - start).toNat)
  else none

/-! ### Texts -/

/-- The answers that texts give on their characters. -/
def textIs (name : String) (s : List Char) : Bool :=
  let isDigit (c : Char) : Bool := (Number.decimalValue? c).isSome
  let isLetter (c : Char) : Bool := Text.isWord c && c ≠ '_' && !isDigit c
  let some_ (fits : Char → Bool) : Bool := !s.isEmpty && s.all fits
  match name with
  | "isalnum" => some_ fun c => isLetter c || isDigit c
  | "isalpha" => some_ isLetter
  | "isascii" => s.all fun c => c.toNat < 0x80
  | "isdecimal" => some_ isDigit
  | "isdigit" => some_ isDigit
  | "isspace" => some_ Text.isBlank
  | "islower" => s.any Text.hasCase && s.all fun c => Text.lowerChar c = [c]
  | "isupper" => s.any Text.hasCase && s.all fun c => Text.upperChar c = [c]
  | _ => s.any Text.hasCase && Text.titleFrom false s = s

/-- The characters that a text is stripped of. -/
def stripped (name : String) (args : List Value) : Eval (Char → Bool) := do
  match args with
  | [] => return Text.isBlank
  | .null :: _ => return Text.isBlank
  | .text chars _ :: _ => return fun c => chars.toList.contains c
  | _ => Eval.wrongType (name ++ " arg must be None or str")

/-- Texts to look for: one, or those of a tuple. -/
def needles (name : String) (v : Value) : Eval (List (List Char)) := do
  match v with
  | .text s _ => return [s.toList]
  | .tuple items => items.mapM (asChars "item")
  | v =>
      Eval.wrongType (name ++ " first arg must be str or a tuple of str, not "
        ++ (← Eval.typeName v))

/-- The character to fill up with. -/
def fillChar (args : List Value) : Eval Char := do
  match args with
  | _ :: .text s _ :: _ =>
      match s.toList with
      | [c] => return c
      | _ => Eval.wrongType "The fill character must be exactly one character long"
  | _ :: v :: _ =>
      Eval.wrongType ("The fill character must be a unicode character, not "
        ++ (← Eval.typeName v))
  | _ => return ' '

/-- Values that must be texts, as texts. -/
def joinedTexts : Nat → List Value → Eval (List (List Char))
  | _, [] => return []
  | n, .text s _ :: rest => do return s.toList :: (← joinedTexts (n + 1) rest)
  | n, v :: _ => do
      Eval.wrongType (s!"sequence item {n}: expected str instance, " ++ (← Eval.typeName v)
        ++ " found")

/-- A text split into three parts, at most one of which is not empty if nothing is found. -/
def threeParts (back : Bool) (mark s : List Char) : List (List Char) :=
  let found := if back then Text.splitOnBack mark 1 s else Text.splitOn mark 1 s
  match found with
  | [before, after] => [before, mark, after]
  | _ => if back then [[], [], s] else [s, [], []]

/-- The pieces of a text. -/
def pieces (back : Bool) (s : List Char) (args : List Value) : Eval (List (List Char)) := do
  let count := limit s.length (← asInt (args.getD 1 (.int (-1))))
  match args.getD 0 .null with
  | .null => return if back then Text.splitBlankBack count s else Text.splitBlank count s
  | mark =>
      let mark ← asChars "sep" mark
      if mark.isEmpty then Eval.fail .wrongValue "empty separator"
      else return if back then Text.splitOnBack mark count s else Text.splitOn mark count s

/-- The place of a text in another one. -/
def placeOf (back : Bool) (s : List Char) (args : List Value) : Eval (Option Int) := do
  let needle ← asChars "argument 1" (args.getD 0 .null)
  match window s args.tail with
  | none => return none
  | some (start, part) =>
      let found := if back then Text.findBack? needle part else Text.find? needle part
      return found.map fun n => ((n + start : Nat) : Int)

/-- What a method of texts gives. -/
def callTextMethod (text : String) (isSafe : Bool) (name : String) (args : List Value) :
    Eval Value := do
  let s := text.toList
  let made (cs : List Char) : Value := .text (String.ofList cs) isSafe
  checkArity "str" name (textArity name) args.length
  match name with
  | "upper" => return made (Text.upper s)
  | "lower" => return made (Text.lower s)
  | "casefold" => return made (Text.lower s)
  | "capitalize" => return made (Text.capitalize s)
  | "title" => return made (Text.titleFrom false s)
  | "swapcase" => return made (Text.swapCase s)
  | "strip" =>
      let fits ← stripped name args
      return made (Text.stripEnd fits (Text.stripStart fits s))
  | "lstrip" => return made (Text.stripStart (← stripped name args) s)
  | "rstrip" => return made (Text.stripEnd (← stripped name args) s)
  | "split" => return .list ((← pieces false s args).map made)
  | "rsplit" => return .list ((← pieces true s args).map made)
  | "splitlines" => return .list ((Text.splitLines s).map made)
  | "join" =>
      match args with
      | [v] => return made (Text.joinWith s (← joinedTexts 0 (← Eval.items v)))
      | _ => return .null
  | "replace" =>
      let old ← asChars "replace() argument 1" (args.getD 0 .null)
      let new ← asChars "replace() argument 2" (args.getD 1 .null)
      return made (Text.replaceText old new (limit s.length (← asInt (args.getD 2 (.int (-1))))) s)
  | "startswith" =>
      let starts ← needles name (args.getD 0 .null)
      match window s args.tail with
      | some (_, part) => return .bool (starts.any fun t => t.isPrefixOf part)
      | none => return .bool false
  | "endswith" =>
      let ends ← needles name (args.getD 0 .null)
      match window s args.tail with
      | some (_, part) => return .bool (ends.any fun t => t.isSuffixOf part)
      | none => return .bool false
  | "removeprefix" =>
      let t ← asChars "removeprefix() argument" (args.getD 0 .null)
      return made ((Text.dropPrefix? t s).getD s)
  | "removesuffix" =>
      let t ← asChars "removesuffix() argument" (args.getD 0 .null)
      return made (if t.isSuffixOf s then s.take (s.length - t.length) else s)
  | "count" =>
      let needle ← asChars "argument 1" (args.getD 0 .null)
      match window s args.tail with
      | some (_, part) => return .int (Text.occurrences needle part)
      | none => return .int 0
  | "find" => return .int ((← placeOf false s args).getD (-1))
  | "rfind" => return .int ((← placeOf true s args).getD (-1))
  | "index" | "rindex" =>
      match ← placeOf (name = "rindex") s args with
      | some i => return .int i
      | none => Eval.fail .wrongValue "substring not found"
  | "partition" =>
      let mark ← asChars "argument" (args.getD 0 .null)
      return .tuple ((threeParts false mark s).map made)
  | "rpartition" =>
      let mark ← asChars "argument" (args.getD 0 .null)
      return .tuple ((threeParts true mark s).map made)
  | "center" =>
      return made (Text.centered (← fillChar args) (← asInt (args.getD 0 .null)).toNat s)
  | "ljust" =>
      return made (Text.leftAligned (← fillChar args) (← asInt (args.getD 0 .null)).toNat s)
  | "rjust" =>
      return made (Text.rightAligned (← fillChar args) (← asInt (args.getD 0 .null)).toNat s)
  | "zfill" =>
      let width := (← asInt (args.getD 0 .null)).toNat
      let sign := (s.take 1).filter fun c => c ∈ ['+', '-']
      return made (sign ++ Text.rightAligned '0' (width - sign.length) (s.drop sign.length))
  | _ => return .bool (textIs name s)

/-! ### Sequences and mappings -/

/-- The place of a value among others. -/
def placeAmong (v : Value) : Nat → List Value → Except Failure (Option Nat)
  | _, [] => .ok none
  | n, x :: xs => do if ← x.equals v then return some n else placeAmong v (n + 1) xs

/-- How often a value is among others. -/
def countAmong (v : Value) : List Value → Except Failure Nat
  | [] => .ok 0
  | x :: xs => do
      let n ← countAmong v xs
      return if ← x.equals v then n + 1 else n

/-- What a method of sequences gives. -/
def callListMethod (v : Value) (items : List Value) (name : String) (args : List Value) :
    Eval Value := do
  let owner ← Eval.typeName v
  match name, args with
  | "index", [x] =>
      match ← placeAmong x 0 items with
      | some n => return .int n
      | none =>
          if owner = "tuple" then Eval.fail .wrongValue "tuple.index(x): x not in tuple"
          else Eval.fail .wrongValue ((← Eval.shown x) ++ " is not in " ++ owner)
  | "count", [x] => return .int (← countAmong x items)
  | "copy", [] => return .list items
  | "copy", _ => Eval.wrongType s!"{owner}.copy() takes no arguments ({args.length} given)"
  | name, _ =>
      Eval.wrongType s!"{owner}.{name}() takes exactly one argument ({args.length} given)"

/-- What a method of mappings gives. -/
def callMapMethod (entries : List (Value × Value)) (name : String) (args : List Value) :
    Eval Value := do
  match name, args with
  | "keys", [] => return .view .keys (entries.map Prod.fst)
  | "values", [] => return .view .values (entries.map Prod.snd)
  | "items", [] => return .view .items (entries.map fun (k, v) => .tuple [k, v])
  | "copy", [] => return .map entries
  | "get", [key] => do
      Eval.ensureKey key
      return (← Value.lookup? key entries).getD .null
  | "get", [key, standard] => do
      Eval.ensureKey key
      return (← Value.lookup? key entries).getD standard
  | "get", [] => Eval.wrongType "get expected at least 1 argument, got 0"
  | "get", args => Eval.wrongType s!"get expected at most 2 arguments, got {args.length}"
  | name, args => Eval.wrongType s!"dict.{name}() takes no arguments ({args.length} given)"

/-- The number of binary digits of an integer. -/
def bitCount (i : Int) : Nat := if i = 0 then 0 else i.natAbs.log2 + 1

/-- **What a method gives.** -/
def callMethod (v : Value) (name : String) (args : List Value) (named : List (String × Value)) :
    Eval Value := do
  match v with
  | .text s isSafe =>
      if name = "format" then
        return .text (← fillBraces s args named) isSafe
      else if name = "split" || name = "rsplit" then
        let sig : Signature := ⟨name, [("sep", some .null), ("maxsplit", some (.int (-1)))], 0⟩
        callTextMethod s isSafe name (← sig.bind args named)
      else if !named.isEmpty then
        Eval.wrongType ("str." ++ name ++ "() takes no keyword arguments")
      else callTextMethod s isSafe name args
  | .list items => callListMethod v items name args
  | .tuple items => callListMethod v items name args
  | .range start stop step => callListMethod v (Value.rangeItems start stop step) name args
  | .map entries => callMapMethod entries name args
  | .float x =>
      if name = "is_integer" then return .bool (x.isFinite && x.floor == x) else return .float x
  | v =>
      match v.int? with
      | some i => return .int (if name = "bit_length" then bitCount i else i)
      | none => Eval.wrongType ("'" ++ (← Eval.typeName v) ++ "' object is not callable")

/-! ### Methods that change -/

/-- A list with an item at a place. -/
def insertAt (items : List Value) (i : Int) (v : Value) : List Value :=
  let n : Int := items.length
  let place := (max 0 (min n (if i < 0 then i + n else i))).toNat
  items.take place ++ v :: items.drop place

/-- What a method gives that changes a list, and the list afterwards. -/
def changeList (items : List Value) (name : String) (args : List Value) :
    Eval (Value × List Value) := do
  match name, args with
  | "append", [v] => return (.null, items ++ [v])
  | "extend", [v] => return (.null, items ++ (← Eval.items v))
  | "insert", [i, v] => return (.null, insertAt items (← asInt i) v)
  | "clear", [] => return (.null, [])
  | "reverse", [] => return (.null, items.reverse)
  | "pop", args =>
      if items.isEmpty then Eval.fail .missingIndex "pop from empty list"
      else
        let i ← asInt (args.getD 0 (.int (-1)))
        match Value.place? items.length i with
        | some n => return (items.getD n .null, items.eraseIdx n)
        | none => Eval.fail .missingIndex "pop index out of range"
  | "remove", [v] =>
      match ← placeAmong v 0 items with
      | some n => return (.null, items.eraseIdx n)
      | none => Eval.fail .wrongValue "list.remove(x): x not in list"
  | name, args =>
      Eval.wrongType s!"list.{name}() takes exactly one argument ({args.length} given)"

/-- A mapping with the entries of another one put into it. -/
def putAll : List (Value × Value) → List (Value × Value) → Eval (List (Value × Value))
  | [], entries => return entries
  | (k, v) :: rest, entries => do
      Eval.ensureKey k
      putAll rest (← Value.putEntry k v entries)

/-- A mapping without a key. -/
def without (key : Value) : List (Value × Value) → Except Failure (List (Value × Value))
  | [] => .ok []
  | (k, v) :: rest => do
      if ← k.equals key then return rest else return (k, v) :: (← without key rest)

/-- The entries that a value has as a mapping: its own, or its items as pairs. -/
def entriesOf (v : Value) : Eval (List (Value × Value)) := do
  match v with
  | .map entries => return entries
  | v =>
      (← Eval.items v).mapM fun pair => do
        match ← Eval.items pair with
        | [k, w] => return (k, w)
        | other =>
            Eval.fail .wrongValue (s!"dictionary update sequence element #0 has length "
              ++ s!"{other.length}; 2 is required")

/-- Named values as entries. -/
def namedEntries (named : List (String × Value)) : List (Value × Value) :=
  named.map fun (k, v) => (.ofString k, v)

/-- What a method gives that changes a mapping, and the mapping afterwards. -/
def changeMap (entries : List (Value × Value)) (name : String) (args : List Value)
    (named : List (String × Value)) : Eval (Value × List (Value × Value)) := do
  match name, args with
  | "clear", [] => return (.null, [])
  | "update", [] => return (.null, ← putAll (namedEntries named) entries)
  | "update", v :: _ =>
      return (.null, ← putAll (namedEntries named) (← putAll (← entriesOf v) entries))
  | "setdefault", key :: rest =>
      Eval.ensureKey key
      match ← Value.lookup? key entries with
      | some v => return (v, entries)
      | none =>
          let v := rest.getD 0 .null
          return (v, ← Value.putEntry key v entries)
  | "pop", key :: rest =>
      Eval.ensureKey key
      match ← Value.lookup? key entries, rest with
      | some v, _ => return (v, ← without key entries)
      | none, standard :: _ => return (standard, entries)
      | none, [] => Eval.fail .missingKey (← Eval.shown key)
  | name, args =>
      Eval.wrongType s!"{name} expected at least 1 argument, got {args.length}"

/-- Whether a method changes a value. -/
def changes (v : Value) (name : String) : Bool :=
  match v with
  | .list _ => name ∈ listChanges
  | .map _ => name ∈ mapChanges
  | _ => false

/-- **What a method gives that changes a list or a mapping, and the value afterwards.** -/
def change (v : Value) (name : String) (args : List Value) (named : List (String × Value)) :
    Eval (Value × Value) := do
  match v with
  | .list items =>
      let (result, items) ← changeList items name args
      return (result, .list items)
  | .map entries =>
      let (result, entries) ← changeMap entries name args named
      return (result, .map entries)
  | v => return (← callMethod v name args named, v)

end EntryTemplates.Render
