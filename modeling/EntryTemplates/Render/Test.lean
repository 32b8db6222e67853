/-
**Tests: questions about values.**

Main definitions:

* `EntryTemplates.Render.testNames` — the names of tests;
* `EntryTemplates.Render.applyTest` — the answer of a test.
-/

import EntryTemplates.Render.Method

set_option relaxedAutoImplicit false
set_option autoImplicit false

namespace EntryTemplates.Render

/-- The tests that compare, by their names. -/
def comparisonTests : List (String × Comparison) :=
  [("==", .equal), ("eq", .equal), ("equalto", .equal), ("!=", .notEqual), ("ne", .notEqual),
    (">", .greater), ("gt", .greater), ("greaterthan", .greater), (">=", .greaterOrEqual),
    ("ge", .greaterOrEqual), ("<", .less), ("lt", .less), ("lessthan", .less),
    ("<=", .lessOrEqual), ("le", .lessOrEqual)]

/-- The names of the tests that take no argument. -/
def plainTests : List String :=
  ["odd", "even", "defined", "undefined", "filter", "test", "none", "boolean", "false", "true",
    "integer", "float", "lower", "upper", "string", "mapping", "number", "sequence", "iterable",
    "callable", "escaped"]

/-- **The names of tests.** -/
def testNames : List String :=
  plainTests ++ ["divisibleby", "sameas", "in"] ++ comparisonTests.map Prod.fst

/-- The names of filters. -/
def filterNames : List String :=
  ["abs", "attr", "batch", "capitalize", "center", "count", "d", "default", "dictsort", "e",
    "escape", "filesizeformat", "first", "float", "forceescape", "format", "groupby", "indent",
    "int", "items", "join", "last", "length", "list", "lower", "map", "max", "min", "pprint",
    "random", "reject", "rejectattr", "replace", "reverse", "round", "safe", "select",
    "selectattr", "slice", "sort", "string", "striptags", "sum", "title", "tojson", "trim",
    "truncate", "unique", "upper", "urlencode", "urlize", "wordcount", "wordwrap", "xmlattr"]

/-- What a test takes. -/
def testSignature (name : String) : Signature :=
  match name with
  | "divisibleby" => ⟨"test_divisibleby", [("value", none), ("num", none)], 0⟩
  | "sameas" => ⟨"test_sameas", [("value", none), ("other", none)], 0⟩
  | "in" => ⟨"test_in", [("value", none), ("seq", none)], 0⟩
  | "callable" => ⟨"callable", [("obj", none)], 0⟩
  | "filter" => ⟨"test_filter", [("value", none)], 1⟩
  | "test" => ⟨"test_test", [("value", none)], 1⟩
  | name => ⟨"test_" ++ name, [("value", none)], 0⟩

/-- The remainder of a division: of numbers, or a text with its places filled. -/
def remainder (a b : Value) : Eval Value := do
  match a with
  | .text s isSafe => return .text (← fillPercent s b) isSafe
  | a => a.operate (← get).typeOf .mod b

/-- Whether a remainder is a given number. -/
def hasRemainder (a b : Value) (r : Int) : Eval Bool := do
  return ← (← remainder a b).equals (.int r)

/-- Whether a value can be called. -/
def isCallable (v : Value) : Eval Bool := do
  match v with
  | .undefined .. => return true
  | .method .. => return true
  | .builtin _ => return true
  | .object n =>
      match ← Eval.object? n with
      | some (.loop _) => return true
      | some (.procedure _) => return true
      | some (.joiner ..) => return true
      | some (.block _) => return true
      | _ => return false
  | _ => return false

/-- Whether a value has items. -/
def isIterable (v : Value) : Eval Bool := do
  match v with
  | .undefined message true => Eval.missing message
  | .undefined .. | .text .. | .list _ | .tuple _ | .map _ | .range .. | .view .. | .stream _ =>
      return true
  | .object n =>
      match ← Eval.object? n with
      | some (.loop _) => return true
      | _ => return false
  | _ => return false

/-- Whether a value has a length and parts. -/
def isSequence : Value → Bool
  | .undefined _ isStrict => !isStrict
  | .text .. => true
  | .list _ => true
  | .tuple _ => true
  | .map _ => true
  | .range .. => true
  | _ => false

/-- Whether two values are the same one. -/
def isSame (a b : Value) : Eval Bool := do
  match a, b with
  | .undefined .., _ => return false
  | _, .undefined .. => return false
  | .bool x, .bool y => return x = y
  | .bool _, _ => return false
  | _, .bool _ => return false
  | .int _, .float _ => return false
  | .float _, .int _ => return false
  | a, b => return ← a.equals b

/-- Whether a value is one of several names; it is looked up as a key. -/
def isNameAmong (names : List String) (v : Value) : Eval Bool := do
  Eval.ensureKey v
  return match v with
    | .text s _ => names.contains s
    | _ => false

/-- The answer of a test that takes no argument. -/
def applyPlainTest (name : String) (v : Value) : Eval Bool := do
  match name with
  | "odd" => hasRemainder v (.int 2) 1
  | "even" => hasRemainder v (.int 2) 0
  | "defined" => return match v with
      | .undefined .. => false
      | _ => true
  | "undefined" => return match v with
      | .undefined .. => true
      | _ => false
  | "filter" => isNameAmong filterNames v
  | "test" => isNameAmong testNames v
  | "none" => return match v with
      | .null => true
      | _ => false
  | "boolean" => return match v with
      | .bool _ => true
      | _ => false
  | "false" => return match v with
      | .bool b => !b
      | _ => false
  | "true" => return match v with
      | .bool b => b
      | _ => false
  | "integer" => return match v with
      | .int _ => true
      | _ => false
  | "float" => return match v with
      | .float _ => true
      | _ => false
  | "number" => return v.float?.isSome
  | "lower" => return textIs "islower" (← Eval.text v).toList
  | "upper" => return textIs "isupper" (← Eval.text v).toList
  | "string" => return match v with
      | .text .. => true
      | _ => false
  | "mapping" => return match v with
      | .map _ => true
      | _ => false
  | "escaped" => return match v with
      | .text _ isSafe => isSafe
      | _ => false
  | "sequence" => return isSequence v
  | "iterable" => isIterable v
  | _ => isCallable v

/-- What is called by a name that is not there. -/
def unknownName {α : Type} (kind : String) (name : String) : Eval α :=
  Eval.fail .notFound ("No " ++ kind ++ " named " ++ Text.quotedString name ++ ".")

/-- **The answer of a test.** -/
def applyTest (name : String) (v : Value) (args : List Value) (named : List (String × Value)) :
    Eval Bool := do
  let typeOf := (← get).typeOf
  match comparisonTests.lookup name with
  | some c =>
      match args, named with
      | [w], [] => v.compare typeOf c w
      | args, _ => Eval.wrongType (name ++ s!" expected 2 arguments, got {args.length + 1}")
  | none =>
      if !testNames.contains name then unknownName "test" name
      else
        match ← (testSignature name).bind (v :: args) named with
        | [a, b] =>
            match name with
            | "divisibleby" => hasRemainder a b 0
            | "sameas" => isSame a b
            | _ => a.within typeOf b
        | _ => applyPlainTest name v

end EntryTemplates.Render
