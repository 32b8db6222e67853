/-
**Files of environment variables.**

Each line binds a name to a value: `NAME=value`, perhaps after the word `export`.  A value may stand
in quotes, which may run over several lines; an unquoted value ends before a comment.  Lines that
do not fit are skipped.  In any value `${NAME}` stands for the value of another name and
`${NAME:-text}` for the text if there is no such name.

Main definitions:

* `EntryTemplates.Settings.readBindings` — the bindings of a text;
* `EntryTemplates.Settings.expand` — the bindings with names replaced by their values.
-/

import EntryTemplates.Text.Blank
import EntryTemplates.Text.Lines
import EntryTemplates.Text.Search

set_option relaxedAutoImplicit false
set_option autoImplicit false

namespace EntryTemplates.Settings

/-- White space that does not break the line. -/
def isGap (c : Char) : Bool := Text.isBlank c && c ≠ '\n'

/-! ### Values -/

/-- The text up to the first quote without a backslash in front, and the text after the quote. -/
def closeAtPlain (quote : Char) (begun : List Char) : List Char → Option (List Char × List Char)
  | [] => none
  | c :: rest =>
      if c = quote ∧ begun.head? ≠ some '\\' then some (begun.reverse, rest)
      else closeAtPlain quote (c :: begun) rest

/-- The text up to the last quote, and the text after it. -/
def closeAtLast (quote : Char) (s : List Char) : Option (List Char × List Char) :=
  match s.reverse.span (· ≠ quote) with
  | (_, []) => none
  | (after, _ :: before) => some (before.reverse, after.reverse)

/-- The text in quotes after the opening one, and the text after the closing one. -/
def quotedValue? (quote : Char) (s : List Char) : Option (List Char × List Char) :=
  (closeAtPlain quote [] s).or (closeAtLast quote s)

/-- What a letter after a backslash stands for inside double quotes. -/
def escapedChar? : Char → Option Char
  | '\\' => some '\\'
  | '\'' => some '\''
  | '"' => some '"'
  | 'a' => some '\x07'
  | 'b' => some '\x08'
  | 'f' => some '\x0C'
  | 'n' => some '\n'
  | 'r' => some '\r'
  | 't' => some '\t'
  | 'v' => some '\x0B'
  | _ => none

/-- A text with its escapes replaced; between single quotes only those of backslash and quote
count. -/
def unescape (double : Bool) : List Char → List Char
  | [] => []
  | mark :: rest =>
      if mark ≠ '\\' then mark :: unescape double rest
      else
        match rest with
        | [] => [mark]
        | c :: after =>
            match escapedChar? c with
            | some x =>
                if double ∨ c = '\\' ∨ c = '\'' then x :: unescape double after
                else mark :: c :: unescape double after
            | none => mark :: c :: unescape double after

/-- An unquoted value without its comment, which begins after white space. -/
def dropComment (begun : List Char) : List Char → List Char
  | [] => begun.reverse
  | c :: rest =>
      if c = '#' ∧ (begun.head?.any Text.isBlank) then (begun.dropWhile Text.isBlank).reverse
      else dropComment (c :: begun) rest

/-- A value, and the text after it. -/
def readValue? (s : List Char) : Option (List Char × List Char) :=
  match s with
  | [] => some ([], [])
  | '\n' :: _ => some ([], s)
  | '\'' :: rest => (quotedValue? '\'' rest).map fun (v, after) => (unescape false v, after)
  | '"' :: rest => (quotedValue? '"' rest).map fun (v, after) => (unescape true v, after)
  | s =>
      let (line, after) := s.span (· ≠ '\n')
      some (Text.trimEnd (dropComment [] line), after)

/-! ### Bindings -/

/-- A binding of a name; a name may stand without a value. -/
abbrev Binding := String × Option String

/-- A name, unless a comment begins, and the text after it. -/
def readKey? (s : List Char) : Option (Option String × List Char) :=
  match s with
  | '#' :: _ => some (none, s)
  | '\'' :: rest =>
      match rest.span (· ≠ '\'') with
      | (c :: name, _ :: after) => some (some (String.ofList (c :: name)), after)
      | _ => none
  | s =>
      match s.span fun c => c ≠ '=' && c ≠ '#' && !Text.isBlank c with
      | ([], _) => none
      | (name, after) => some (some (String.ofList name), after)

/-- The text after the word `export`, if it stands in front. -/
def dropExport (s : List Char) : List Char :=
  match Text.dropPrefix? "export".toList s with
  | some (c :: rest) => if isGap c then rest.dropWhile isGap else s
  | _ => s

/-- The text after a comment and the end of the line; nothing if something else follows. -/
def endLine? (s : List Char) : Option (List Char) :=
  let s := s.dropWhile isGap
  let s := match s with
    | '#' :: _ => s.dropWhile (· ≠ '\n')
    | s => s
  match s with
  | [] => some []
  | '\n' :: rest => some rest
  | _ => none

/-- One binding, and the text after it; without a binding, the text from where it failed to fit. -/
def readBinding (s : List Char) : Option Binding × List Char :=
  let s := dropExport s
  match readKey? s with
  | none => (none, skipLine s)
  | some (key, s) =>
      let (value, s) := match s.dropWhile isGap with
        | '=' :: rest =>
            let s := rest.dropWhile isGap
            match readValue? s with
            | some (v, after) => (some (some (String.ofList v)), after)
            | none => (none, s)
        | s => (some none, s)
      match value, endLine? s with
      | some v, some after => (key.map fun k => (k, v), after)
      | _, _ => (none, skipLine s)
where
  /-- The text after the end of the line. -/
  skipLine (s : List Char) : List Char := (s.dropWhile (· ≠ '\n')).drop 1

/-- The bindings of a text whose length bounds the recursion. -/
def readBindingsFrom : Nat → List Char → List Binding
  | 0, _ => []
  | fuel + 1, s =>
      match Text.trimStart s with
      | [] => []
      | s =>
          match readBinding s with
          | (some b, rest) => b :: readBindingsFrom fuel rest
          | (none, rest) => readBindingsFrom fuel rest

/-- **The bindings of a text.** -/
def readBindings (s : List Char) : List Binding :=
  let s := Text.unifyBreaks s
  readBindingsFrom (s.length + 1) s

/-! ### Expansion -/

/-- Bindings with one more; a name that was bound before keeps its place. -/
def bind (name : String) (value : Option String) : List Binding → List Binding
  | [] => [(name, value)]
  | (n, v) :: rest => if n = name then (n, value) :: rest else (n, v) :: bind name value rest

/-- The name in braces and the default after `:-`, and the text after the closing brace. -/
def readReference? (s : List Char) : Option (List Char × List Char × List Char) :=
  match s.span fun c => c ≠ '\x7d' && c ≠ ':' with
  | (name, '\x7d' :: after) => some (name, [], after)
  | (name, ':' :: '-' :: rest) =>
      match rest.span (· ≠ '\x7d') with
      | (standIn, _ :: after) => some (name, standIn, after)
      | (_, []) => none
  | _ => none

/-- A value with the names in it replaced; its length bounds the recursion. -/
def expandFrom (known : List Binding) : Nat → List Char → List Char
  | 0, s => s
  | _ + 1, [] => []
  | fuel + 1, c :: rest =>
      let reference := match c, rest with
        | '$', '\x7b' :: inner => readReference? inner
        | _, _ => none
      match reference with
      | some (name, standIn, after) =>
          let value := match known.lookup (String.ofList name) with
            | some (some v) => v.toList
            | some none => []
            | none => standIn
          value ++ expandFrom known fuel after
      | none => c :: expandFrom known fuel rest

/-- **The bindings with names replaced by their values**, which come from the bindings before, and
failing that from the environment. -/
def expand (environment : List (String × String)) (bindings : List Binding) : List Binding :=
  bindings.foldl (fun done (name, value) =>
    let known := done ++ environment.map fun (n, v) => (n, some v)
    bind name (value.map fun v =>
      String.ofList (expandFrom known (v.toList.length + 1) v.toList)) done) []

end EntryTemplates.Settings
