/-
**Filters: values from values.**

Main definitions:

* `EntryTemplates.Render.filterSignature` — what a filter takes;
* `EntryTemplates.Render.applyFilter` — what a filter makes of a value.
-/

import EntryTemplates.Render.SequenceFilter
import EntryTemplates.Render.TextFilter

set_option relaxedAutoImplicit false
set_option autoImplicit false

namespace EntryTemplates.Render

/-- A parameter that must be given. -/
def needed (name : String) : String × Option Value := (name, none)

/-- A parameter with a standard. -/
def optional (name : String) (v : Value) : String × Option Value := (name, some v)

/-- **What a filter takes.** -/
def filterSignature (name : String) : Signature :=
  let no := Value.bool false
  let sensitive := optional "case_sensitive" no
  let byPart := optional "attribute" .null
  let fill := optional "fill_with" .null
  match name with
  | "abs" => ⟨"abs", [needed "x"], 0⟩
  | "attr" => ⟨"do_attr", [needed "obj", needed "name"], 1⟩
  | "batch" => ⟨"do_batch", [needed "value", needed "linecount", fill], 0⟩
  | "center" => ⟨"do_center", [needed "value", optional "width" (.int 80)], 0⟩
  | "count" | "length" => ⟨"len", [needed "obj"], 0⟩
  | "d" | "default" =>
      ⟨"do_default",
        [needed "value", optional "default_value" (.ofString ""), optional "boolean" no], 0⟩
  | "dictsort" =>
      ⟨"do_dictsort",
        [needed "value", sensitive, optional "by" (.ofString "key"), optional "reverse" no], 0⟩
  | "e" | "escape" => ⟨"escape", [needed "s"], 0⟩
  | "filesizeformat" => ⟨"do_filesizeformat", [needed "value", optional "binary" no], 0⟩
  | "first" => ⟨"sync_do_first", [needed "seq"], 1⟩
  | "float" => ⟨"do_float", [needed "value", optional "default" (.float 0)], 0⟩
  | "groupby" =>
      ⟨"sync_do_groupby",
        [needed "value", needed "attribute", optional "default" .null, sensitive], 1⟩
  | "indent" =>
      ⟨"do_indent",
        [needed "s", optional "width" (.int 4), optional "first" no, optional "blank" no], 0⟩
  | "int" =>
      ⟨"do_int", [needed "value", optional "default" (.int 0), optional "base" (.int 10)], 0⟩
  | "join" => ⟨"sync_do_join", [needed "value", optional "d" (.ofString ""), byPart], 1⟩
  | "last" => ⟨"do_last", [needed "seq"], 1⟩
  | "list" => ⟨"sync_do_list", [needed "value"], 0⟩
  | "max" => ⟨"do_max", [needed "value", sensitive, byPart], 1⟩
  | "min" => ⟨"do_min", [needed "value", sensitive, byPart], 1⟩
  | "random" => ⟨"do_random", [needed "seq"], 1⟩
  | "replace" =>
      ⟨"do_replace", [needed "s", needed "old", needed "new", optional "count" .null], 1⟩
  | "round" =>
      ⟨"do_round",
        [needed "value", optional "precision" (.int 0), optional "method" (.ofString "common")], 0⟩
  | "safe" => ⟨"do_mark_safe", [needed "value"], 0⟩
  | "slice" => ⟨"sync_do_slice", [needed "value", needed "slices", fill], 0⟩
  | "sort" => ⟨"do_sort", [needed "value", optional "reverse" no, sensitive, byPart], 1⟩
  | "string" => ⟨"soft_str", [needed "s"], 0⟩
  | "sum" => ⟨"sync_do_sum", [needed "iterable", byPart, optional "start" (.int 0)], 1⟩
  | "tojson" => ⟨"do_tojson", [needed "value", optional "indent" .null], 1⟩
  | "trim" => ⟨"do_trim", [needed "value", optional "chars" .null], 0⟩
  | "truncate" =>
      ⟨"do_truncate",
        [needed "s", optional "length" (.int 255), optional "killwords" no,
          optional "end" (.ofString "..."), optional "leeway" .null], 1⟩
  | "unique" => ⟨"do_unique", [needed "value", sensitive, byPart], 1⟩
  | "urlize" =>
      ⟨"do_urlize",
        [needed "value", optional "trim_url_limit" .null, optional "nofollow" no,
          optional "target" .null, optional "rel" .null, optional "extra_schemes" .null], 1⟩
  | "wordwrap" =>
      ⟨"do_wordwrap",
        [needed "s", optional "width" (.int 79), optional "break_long_words" (.bool true),
          optional "wrapstring" .null, optional "break_on_hyphens" (.bool true)], 1⟩
  | "xmlattr" => ⟨"do_xmlattr", [needed "d", optional "autospace" (.bool true)], 1⟩
  | "capitalize" | "lower" | "title" | "upper" | "wordcount" => ⟨"do_" ++ name, [needed "s"], 0⟩
  | name => ⟨"do_" ++ name, [needed "value"], 0⟩

/-! ### Texts -/

/-- A filter that works on the characters of a text. -/
def onChars (f : List Char → List Char) (v : Value) : Eval Value := do
  match ← Eval.softText v with
  | .text s isSafe => return .text (String.ofList (f s.toList)) isSafe
  | v => return v

/-- A text with another one replaced in it. -/
def replaced (s old new : Value) (count : Value) : Eval Value := do
  let count (n : Nat) : Eval Nat := do
    match count with
    | .null => return n + 1
    | c => return limit n (← asInt c)
  if (← get).escapes then
    let isSafe : Value → Bool
      | .text _ b => b
      | _ => false
    let text ← if isSafe old || (isSafe new && !isSafe s) then do
        pure (Value.text (← Eval.escaped s) true) else Eval.softText s
    match text with
    | .text t true =>
        let old ← Eval.escaped old
        let new ← Eval.escaped new
        return .text (String.ofList
          (Text.replaceText old.toList new.toList (← count t.length) t.toList)) true
    | text =>
        let t ← Eval.text text
        let old ← Eval.text old
        let new ← Eval.text new
        return .ofString (String.ofList
          (Text.replaceText old.toList new.toList (← count t.length) t.toList))
  else
    let t ← Eval.text s
    let old ← Eval.text old
    let new ← Eval.text new
    return .ofString (String.ofList
      (Text.replaceText old.toList new.toList (← count t.length) t.toList))

/-- Values put together as texts with a mark between them; a text that needs no escaping makes the
others escaped. -/
def joined (items : List Value) (mark : Value) : Eval Value := do
  if (← get).escapes then
    let isSafe : Value → Bool
      | .text _ b => b
      | _ => false
    if isSafe mark || items.any isSafe then
      let parts ← items.mapM Eval.escaped
      return .text ((← Eval.escaped mark).intercalate parts) true
  let mark ← Eval.text mark
  return .ofString (mark.intercalate (← items.mapM Eval.text))

/-- A text with its lines moved to the right. -/
def indentedBy (s width first blank : Value) : Eval Value := do
  let mark ← match width with
    | .text t _ => pure t.toList
    | w => do pure (List.replicate (← asInt w).toNat ' ')
  match s with
  | .text t isSafe =>
      return .text (String.ofList (indented mark (← first.isTrue) (← blank.isTrue) t.toList)) isSafe
  | .undefined message _ => Eval.missing message
  | v =>
      Eval.wrongType ("unsupported operand type(s) for +=: '" ++ (← Eval.typeName v)
        ++ "' and 'str'")

/-- A text cut to a length. -/
def truncatedTo (s length killWords mark leeway : Value) : Eval Value := do
  let leeway ← match leeway with
    | .null => pure 5
    | v => asInt v
  let length ← asInt length
  let mark := (← Eval.text mark).toList
  if length < mark.length then
    Eval.fail .assertion (s!"expected length >= {mark.length}, got " ++ (← Eval.number length))
  else if leeway < 0 then
    Eval.fail .assertion ("expected leeway >= 0, got " ++ (← Eval.number leeway))
  else
    let _ ← lengthOf s
    match s with
    | .text t isSafe =>
        return .text (String.ofList
          (truncated length.toNat (← killWords.isTrue) mark leeway.toNat t.toList)) isSafe
    | v => return v

/-- A text in lines of limited width. -/
def wrappedTo (s width breaksWords mark atHyphens : Value) : Eval Value := do
  let mark ← match mark with
    | .null => do pure (← get).lineBreak.toList
    | v => do pure (← Eval.text v).toList
  let width ← asInt width
  match s with
  | .text t isSafe =>
      if width ≤ 0 then
        Eval.fail .wrongValue ("invalid width " ++ (← Eval.number width) ++ " (must be > 0)")
      else
        let w : Text.Wrapping := ⟨width.toNat, ← breaksWords.isTrue, ← atHyphens.isTrue⟩
        let lines := (Text.splitLines t.toList).map fun l =>
          Text.joinWith mark (Text.wrapped w l)
        return .text (String.ofList (Text.joinWith mark lines)) isSafe
  | .undefined message _ => Eval.missing message
  | v =>
      Eval.fail .missingAttribute (Text.quotedString (← Eval.typeName v)
        ++ " object has no attribute 'splitlines'")

/-- A value as a part of an address: a text, or the pairs of a query. -/
def urlEncoded (v : Value) : Eval Value := do
  let query (pairs : List Value) : Eval Value := do
    let parts ← pairs.mapM fun pair => do
      match ← Eval.items pair with
      | [k, w] =>
          return urlQuoted true (← Eval.text k) ++ '=' :: urlQuoted true (← Eval.text w)
      | items =>
          if items.length < 2 then
            Eval.fail .wrongValue
              s!"not enough values to unpack (expected 2, got {items.length})"
          else Eval.fail .wrongValue "too many values to unpack (expected 2)"
    return .ofString (String.ofList (Text.joinWith ['&'] parts))
  match v with
  | .text s _ => return .ofString (String.ofList (urlQuoted false s))
  | .map entries => query (entries.map fun (k, w) => .tuple [k, w])
  | .list items | .tuple items | .view _ items | .stream items => query items
  | v => return .ofString (String.ofList (urlQuoted false (← Eval.text v)))

/-- A text with addresses made into links. -/
def linked (v : Value) : Eval Value := do
  let text ← Eval.text v
  let words := text.toList.splitBy fun a b => Text.isBlank a == Text.isBlank b
  let isAddress (w : List Char) : Bool :=
    ("http://".toList.isPrefixOf w || "https://".toList.isPrefixOf w) && 8 < w.length
  let link (w : List Char) : String :=
    let s := escapeText (String.ofList w)
    if isAddress w then "<a href=\"" ++ s ++ "\" rel=\"noopener\">" ++ s ++ "</a>" else s
  Eval.made (String.join (words.map link))

/-- The entries of a mapping as attributes of a tag. -/
def tagAttributes (d autospace : Value) : Eval Value := do
  match d with
  | .map entries =>
      let parts ← entries.filterMapM fun (k, v) => do
        match v with
        | .null => return none
        | .undefined .. => return none
        | v =>
            let key ← Eval.text k
            let isBad (c : Char) : Bool := Text.isBlank c || c ∈ ['/', '>', '=']
            if key.toList.any isBad then
              Eval.fail .wrongValue ("Invalid character in attribute name: "
                ++ (← Eval.shown k))
            else return some ((← Eval.escaped k) ++ "=\"" ++ (← Eval.escaped v) ++ "\"")
      let body := " ".intercalate parts
      let body := if (← autospace.isTrue) && body ≠ "" then " " ++ body else body
      Eval.made body
  | .undefined message _ => Eval.missing message
  | v =>
      Eval.fail .missingAttribute (Text.quotedString (← Eval.typeName v)
        ++ " object has no attribute 'items'")

/-- A value as it stands inside a collection, the keys of mappings in order. -/
def orderedShown (v : Value) : Eval Value := do
  match v with
  | .map entries =>
      return .ofString (← Eval.shown (.map (← sortEntries (← get).typeOf entries)))
  | v => return .ofString (← Eval.shown v)

/-! ### Collections -/

/-- The entries of a mapping as pairs in the order of their keys or their values. -/
def sortedEntries (v sensitive by_ backwards : Value) : Eval Value := do
  let place : Nat ← match by_ with
    | .text "key" _ => pure 0
    | .text "value" _ => pure 1
    | _ => Eval.fail .filterArgument "You can only sort by either \"key\" or \"value\""
  match v with
  | .map entries =>
      let pairs := entries.map fun (k, w) => Value.tuple [k, w]
      let key (pair : Value) : Eval Value := do
        keyOf (.int place) none (← sensitive.isTrue) pair
      return .list ((← sortBy key (← backwards.isTrue) pairs).map Prod.snd)
  | .undefined message _ => Eval.missing message
  | v =>
      Eval.fail .missingAttribute (Text.quotedString (← Eval.typeName v)
        ++ " object has no attribute 'items'")

/-- Items in groups by the part that a path leads to. -/
def groupedBy (v steps standard sensitive : Value) : Eval Value := do
  let standard := match standard with
    | .null => none
    | w => some w
  let isSensitive ← sensitive.isTrue
  let sorted ← sortBy (keyOf steps standard isSensitive) false (← Eval.items v)
  let groups ← groupRuns sorted
  let pairs ← groups.mapM fun (k, vs) => do
    let k ← match vs with
      | first :: _ => if isSensitive then pure k else path steps standard first
      | [] => pure k
    return Value.tuple [k, .list vs]
  return .list pairs

/-- The items of a value in the opposite order. -/
def reversed (v : Value) : Eval Value := do
  match v with
  | .text s isSafe => return .text (String.ofList s.toList.reverse) isSafe
  | .undefined message true => Eval.missing message
  | .null | .bool _ | .int _ | .float _ | .slice .. | .method .. | .builtin _ =>
      Eval.fail .filterArgument "argument must be iterable"
  | v => return .stream (← Eval.items v).reverse

/-- A value, or `standard` in place of an undefined one; on demand also in place of one that does
not count as true. -/
def orStandard (v standard boolean : Value) : Eval Value := do
  match v with
  | .undefined .. => return standard
  | v => return if (← boolean.isTrue) && !(← v.isTrue) then standard else v

/-- What a filter makes of a value, for all filters that apply no other ones. -/
def applySimple (name : String) (args : List Value) : Eval Value := do
  let typeOf := (← get).typeOf
  match name, args with
  | "abs", [v] =>
      match v with
      | .float x => return .float x.abs
      | .undefined message _ => Eval.missing message
      | v =>
          match v.int? with
          | some i => return .int i.natAbs
          | none => Eval.wrongType ("bad operand type for abs(): '" ++ (← Eval.typeName v) ++ "'")
  | "attr", [v, part] =>
      let name ← Eval.text part
      match ← member? v name with
      | some w => return w
      | none => missingPart v (.ofString name)
  | "batch", [v, count, fill] =>
      let items ← Eval.items v
      return .stream (batches (← asInt count).toNat fill (items.length + 1) items)
  | "capitalize", [v] => onChars Text.capitalize v
  | "center", [v, width] =>
      let width ← asInt width
      onChars (Text.centered ' ' width.toNat) v
  | "count", [v] => return .int (← lengthOf v)
  | "length", [v] => return .int (← lengthOf v)
  | "d", [v, standard, boolean] | "default", [v, standard, boolean] => orStandard v standard boolean
  | "dictsort", [v, sensitive, by_, backwards] => sortedEntries v sensitive by_ backwards
  | "e", [v] | "escape", [v] => return .text (← Eval.escaped v) true
  | "forceescape", [v] => return .text (escapeText (← Eval.text v)) true
  | "filesizeformat", [v, isBinary] =>
      match ← asFloat v .null with
      | .float x => return .ofString (sizeText x (← isBinary.isTrue))
      | _ =>
          match v with
          | .text s _ =>
              Eval.fail .wrongValue ("could not convert string to float: " ++ Text.quotedString s)
          | v =>
              Eval.wrongType ("float() argument must be a string or a real number, not '"
                ++ (← Eval.typeName v) ++ "'")
  | "first", [v] =>
      match ← Eval.items v with
      | x :: _ => return x
      | [] => return absent "No first item, sequence was empty."
  | "last", [v] =>
      match (← reversible v).getLast? with
      | some x => return x
      | none => return absent "No last item, sequence was empty."
  | "random", [v] =>
      match ← Eval.items v with
      | [x] => return x
      | [] => return absent "No random item, sequence was empty."
      | _ => Eval.fail .chance "an item is chosen by chance"
  | "float", [v, standard] => asFloat v standard
  | "int", [v, standard, base] => asInteger v standard base
  | "groupby", [v, steps, standard, sensitive] => groupedBy v steps standard sensitive
  | "indent", [s, width, first, blank] => indentedBy s width first blank
  | "items", [v] =>
      match v with
      | .undefined .. => return .stream []
      | .map entries => return .stream (entries.map fun (k, w) => .tuple [k, w])
      | _ => Eval.wrongType "Can only get item pairs from a mapping."
  | "join", [v, mark, steps] =>
      let items ← Eval.items v
      let items ← match steps with
        | .null => pure items
        | steps => items.mapM (path steps none)
      joined items mark
  | "list", [v] => return .list (← Eval.items v)
  | "lower", [v] => onChars Text.lower v
  | "upper", [v] => onChars Text.upper v
  | "title", [v] => onChars titled v
  | "max", [v, sensitive, steps] =>
      best .greater (keyOf steps none (← sensitive.isTrue)) (← Eval.items v)
  | "min", [v, sensitive, steps] =>
      best .less (keyOf steps none (← sensitive.isTrue)) (← Eval.items v)
  | "pprint", [v] => orderedShown v
  | "replace", [s, old, new, count] => replaced s old new count
  | "reverse", [v] => reversed v
  | "round", [v, decimals, how] => rounded v decimals how
  | "safe", [v] => return .text (← Eval.text v) true
  | "slice", [v, count, fill] =>
      let count ← asInt count
      if count = 0 then
        Eval.fail .divisionByZero "integer division or modulo by zero"
      else return .stream (slices count.toNat fill (← Eval.items v))
  | "sort", [v, backwards, sensitive, steps] =>
      let sorted ← sortBy (keysOf steps (← sensitive.isTrue)) (← backwards.isTrue) (← Eval.items v)
      return .list (sorted.map Prod.snd)
  | "string", [v] => Eval.softText v
  | "striptags", [v] => return .ofString (String.ofList (stripTags (← Eval.text v).toList))
  | "sum", [v, steps, start] =>
      let items ← Eval.items v
      let items ← match steps with
        | .null => pure items
        | steps => items.mapM (path steps none)
      match start with
      | .text .. => Eval.wrongType "sum() can't sum strings [use ''.join(seq) instead]"
      | start => total start items
  | "tojson", [v, indent] =>
      let indent := if ← indent.isTrue then indent.int?.map Int.toNat else none
      return .text (← json typeOf indent 1000 0 v) true
  | "trim", [v, chars] =>
      let fits ← stripped "strip" [chars]
      onChars (fun s => Text.stripEnd fits (Text.stripStart fits s)) v
  | "truncate", [s, length, killWords, mark, leeway] => truncatedTo s length killWords mark leeway
  | "unique", [v, sensitive, steps] =>
      return .stream (← uniqueFrom (keyOf steps none (← sensitive.isTrue)) [] (← Eval.items v))
  | "urlencode", [v] => urlEncoded v
  | "urlize", v :: _ => linked v
  | "wordcount", [v] => return .int (wordCount (← Eval.text v).toList)
  | "wordwrap", [s, width, breaksWords, mark, atHyphens] =>
      wrappedTo s width breaksWords mark atHyphens
  | "xmlattr", [d, autospace] => tagAttributes d autospace
  | _, v :: _ => return v
  | _, [] => return .null

/-! ### Filters that apply others -/

/-- The part of the items that `map` takes, if it takes a part, and what stands for a missing
one. -/
def mappedPart (named : List (String × Value)) : Eval (Option (Value × Option Value)) := do
  match named.lookup "attribute" with
  | none => return none
  | some steps =>
      match named.find? fun p => p.1 ≠ "attribute" && p.1 ≠ "default" with
      | some (other, _) =>
          Eval.fail .filterArgument ("Unexpected keyword argument " ++ Text.quotedString other)
      | none =>
          let standard := match named.lookup "default" with
            | some .null => none
            | w => w
          return some (steps, standard)

/-- The name of a filter or a test that is given as a value. -/
def calledName (kind : String) (v : Value) : Eval String := do
  match v with
  | .text s _ => return s
  | .undefined message _ =>
      Eval.fail .notFound ("No " ++ kind ++ " named Undefined. (" ++ (← Eval.worded message)
        ++ "; did you forget to quote the callable name?)")
  | v => Eval.fail .notFound ("No " ++ kind ++ " named " ++ (← Eval.shown v) ++ ".")

/-- Whether an item is selected by a test, or by its truth if there is none. -/
def passes (args : List Value) (named : List (String × Value)) (v : Value) : Eval Bool := do
  match args with
  | [] => v.isTrue
  | name :: args => applyTest (← calledName "test" name) v args named

/-- The items that are selected: those that pass, or those that do not. -/
def chosen (byPart wanted : Bool) (v : Value) (args : List Value) (named : List (String × Value)) :
    Eval Value := do
  if !(← v.isTrue) then return .stream []
  else
    let items ← Eval.items v
    match byPart, args with
    | true, [] => Eval.fail .filterArgument "Missing parameter for attribute name"
    | true, steps :: args =>
        return .stream (← items.filterM fun item => do
          return (← passes args named (← path steps none item)) == wanted)
    | false, args =>
        return .stream (← items.filterM fun item => do
          return (← passes args named item) == wanted)

/-- **What a filter makes of a value.**  `fuel` bounds how often filters apply others. -/
def applyFilter : Nat → String → Value → List Value → List (String × Value) → Eval Value
  | 0, _, _, _, _ => Eval.fail .tooDeep "maximum recursion depth exceeded"
  | fuel + 1, name, v, args, named => do
      match name with
      | "map" =>
          if !(← v.isTrue) then return .stream []
          else
            let items ← Eval.items v
            match args with
            | [] =>
                match ← mappedPart named with
                | some (steps, standard) => return .stream (← items.mapM (path steps standard))
                | none => Eval.fail .filterArgument "map requires a filter argument"
            | inner :: args =>
                let inner ← calledName "filter" inner
                return .stream (← items.mapM fun item => applyFilter fuel inner item args named)
      | "select" => chosen false true v args named
      | "reject" => chosen false false v args named
      | "selectattr" => chosen true true v args named
      | "rejectattr" => chosen true false v args named
      | "format" =>
          match ← Eval.softText v with
          | .text s isSafe =>
              if !args.isEmpty && !named.isEmpty then
                Eval.fail .filterArgument
                  "can't handle positional and keyword arguments at the same time"
              else
                let values : Value :=
                  if named.isEmpty then .tuple args else .map (namedEntries named)
                return .text (← fillPercent s values) isSafe
          | v => return v
      | name =>
          if filterNames.contains name then
            applySimple name (← (filterSignature name).bind (v :: args) named)
          else unknownName "filter" name

end EntryTemplates.Render
