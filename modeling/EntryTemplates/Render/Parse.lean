/-
**From tokens to syntax.**

Operators bind, from the loosest to the tightest: `if`, `or`, `and`, `not`, comparisons, sums, `~`,
products, powers, signs.  All functions bound their recursion by a number that the number of tokens
exceeds in no case.

Main definitions:

* `EntryTemplates.Render.Reader` — the tokens still ahead, and the tags still open;
* `EntryTemplates.Render.parseExpr` — an expression;
* `EntryTemplates.Render.parseBody` — statements up to the end of a tag;
* `EntryTemplates.Render.parse` — a whole template.
-/

import EntryTemplates.Render.Program
import EntryTemplates.Render.Tokens

set_option relaxedAutoImplicit false
set_option autoImplicit false

namespace EntryTemplates.Render

/-- The tokens still ahead, and the tags still open. -/
structure Reader where
  /-- The next token. -/
  now : Located
  rest : List Located
  /-- What is wrong behind the last token. -/
  failure : Option Malformed
  /-- The statements still open, from the inside out. -/
  tags : List String
  /-- The tags that would end them, from the inside out. -/
  ends : List (List String)

/-- Reading that may fail. -/
abbrev Parse (α : Type) := StateT Reader (Except Malformed) α

namespace Parse

/-- The failure of a malformed template. -/
def fail {α : Type} (message : String) : Parse α := fun _ => .error (.broken message)

/-- The next token. -/
def peek : Parse Token := do return (← get).now.token

/-- The line of the next token. -/
def line : Parse Nat := do return (← get).now.line

/-- Passes the next token. -/
def skip : Parse Unit := fun r =>
  match r.rest with
  | t :: rest => .ok ((), { r with now := t, rest })
  | [] =>
      match r.failure with
      | some e => .error e
      | none => .ok ((), { r with now := { r.now with token := .stop } })

/-- The token after the next one. -/
def lookAhead : Parse Token := fun r =>
  match r.rest with
  | t :: _ => .ok (t.token, r)
  | [] =>
      match r.failure with
      | some e => .error e
      | none => .ok (.stop, r)

/-- Takes the next token. -/
def next : Parse Token := do
  let t ← peek
  skip
  return t

/-- Whether the next token is a given name. -/
def atName (s : String) : Parse Bool := do return (← peek).isName s

/-- Whether the next token is a given symbol. -/
def atSymbol (s : String) : Parse Bool := do return (← peek).isSymbol s

/-- Whether the next two tokens are given names; the second one is looked at only behind the first. -/
def followedBy (s t : String) : Parse Bool := do
  if ← atName s then return (← lookAhead).isName t else return false

/-- Passes the next token if it is a given name; whether it was. -/
def acceptName (s : String) : Parse Bool := do
  if ← atName s then
    skip
    return true
  else return false

/-- Passes the next token if it is a given symbol; whether it was. -/
def acceptSymbol (s : String) : Parse Bool := do
  if ← atSymbol s then
    skip
    return true
  else return false

/-- The failure of a token that is not the expected one. -/
def unexpected {α : Type} (expected : String) : Parse α := do
  let t ← peek
  if t.isStop then
    fail ("unexpected end of template, expected " ++ Text.quotedString expected ++ ".")
  else
    fail ("expected token " ++ Text.quotedString expected ++ ", got "
      ++ Text.quotedString t.description)

/-- Passes a token that must fit. -/
def expect (expected : String) (fits : Token → Bool) : Parse Unit := do
  if fits (← peek) then skip else unexpected expected

/-- Passes a symbol that must be next. -/
def expectSymbol (s : String) : Parse Unit := expect s fun t => t.isSymbol s

/-- Passes a word of the language that must be next. -/
def expectName (s : String) : Parse Unit := expect s fun t => t.isName s

/-- Passes the end of a statement's tag. -/
def expectBlockEnd : Parse Unit := expect Token.blockEnd.description Token.isBlockEnd

/-- Takes a name. -/
def takeName : Parse String := do
  match ← peek with
  | .name s =>
      skip
      return s
  | _ => unexpected "name"

end Parse

open Parse

/-! ### Expressions -/

/-- Left-associative operations on two expressions, from the loosest level to the tightest. -/
inductive Level where
  | sum
  | product
  | power
  deriving DecidableEq, Repr

/-- The operation that a token means at a level. -/
def Level.operation? (l : Level) (t : Token) : Option Operation :=
  match t with
  | .symbol s =>
      match l with
      | .sum => if s = "+" then some .add else if s = "-" then some .sub else none
      | .product =>
          if s = "*" then some .mul
          else if s = "/" then some .div
          else if s = "//" then some .floorDiv
          else if s = "%" then some .mod
          else none
      | .power => if s = "**" then some .pow else none
  | _ => none

/-- The comparison that a symbol means. -/
def comparison? : Token → Option Comparison
  | .symbol s =>
      if s = "==" then some .equal
      else if s = "!=" then some .notEqual
      else if s = "<" then some .less
      else if s = "<=" then some .lessOrEqual
      else if s = ">" then some .greater
      else if s = ">=" then some .greaterOrEqual
      else none
  | _ => none

/-- Whether a tuple without parentheses ends before a token; `mark` is a further word that ends
it. -/
def endsTuple (mark : Option String) (t : Token) : Bool :=
  t.isVariableEnd || t.isBlockEnd || t.isSymbol ")" || mark.any t.isName

/-- The arguments of a call. -/
structure Args where
  args : List Expr
  named : List (String × Expr)
  rest : Option Expr
  restNamed : Option Expr

/-- No arguments. -/
def Args.none : Args := ⟨[], [], .none, .none⟩

/-- The failure of arguments in the wrong order. -/
def ensureArgs (b : Bool) : Parse Unit :=
  if b then pure () else fail "invalid syntax for function call expression"

/-- A constant that a name means. -/
def constant? (s : String) : Option Value :=
  if s ∈ ["true", "True"] then some (.bool true)
  else if s ∈ ["false", "False"] then some (.bool false)
  else if s ∈ ["none", "None"] then some .null
  else none

/-- Texts in a row, put together. -/
def parseStrings : Nat → String → Parse String
  | 0, s => pure s
  | fuel + 1, s => do
      match ← peek with
      | .string t =>
          skip
          parseStrings fuel (s ++ t)
      | _ => return s

/-- The rest of a dotted name. -/
def parseDotted : Nat → String → Parse String
  | 0, s => pure s
  | fuel + 1, s => do
      if ← acceptSymbol "." then
        let t ← takeName
        parseDotted fuel (s ++ "." ++ t)
      else return s

/-- Whether a token may begin the argument of a test. -/
def startsTestArgument (t : Token) : Bool :=
  match t with
  | .name s => s ∉ ["else", "or", "and"]
  | .string _ => true
  | .integer _ => true
  | .float _ => true
  | .symbol s => s ∈ ["(", "[", "\x7b"]
  | _ => false

mutual

/-- An expression that may be a choice. -/
def parseExpr : Nat → Parse Expr
  | 0 => fail "too deep"
  | fuel + 1 => do
      let line ← line
      let e ← parseOr fuel
      parseChoices fuel line e

/-- The choices after an expression. -/
def parseChoices : Nat → Nat → Expr → Parse Expr
  | 0, _, _ => fail "too deep"
  | fuel + 1, line, e => do
      if ← acceptName "if" then
        let test ← parseOr fuel
        let no ← if ← acceptName "else" then some <$> parseExpr fuel else pure none
        parseChoices fuel (← Parse.line) (.choice test e no line)
      else return e

/-- A disjunction. -/
def parseOr : Nat → Parse Expr
  | 0 => fail "too deep"
  | fuel + 1 => do parseOrs fuel (← parseAnd fuel)

/-- The rest of a disjunction. -/
def parseOrs : Nat → Expr → Parse Expr
  | 0, _ => fail "too deep"
  | fuel + 1, e => do
      if ← acceptName "or" then parseOrs fuel (.either e (← parseAnd fuel)) else return e

/-- A conjunction. -/
def parseAnd : Nat → Parse Expr
  | 0 => fail "too deep"
  | fuel + 1 => do parseAnds fuel (← parseNot fuel)

/-- The rest of a conjunction. -/
def parseAnds : Nat → Expr → Parse Expr
  | 0, _ => fail "too deep"
  | fuel + 1, e => do
      if ← acceptName "and" then parseAnds fuel (.both e (← parseNot fuel)) else return e

/-- A negation. -/
def parseNot : Nat → Parse Expr
  | 0 => fail "too deep"
  | fuel + 1 => do
      if ← acceptName "not" then return .negation (← parseNot fuel)
      else
        let e ← parseLevel fuel .sum
        match ← parseComparisons fuel with
        | [] => return e
        | more => return .compare e more

/-- The comparisons after an expression. -/
def parseComparisons : Nat → Parse (List (Comparison × Expr))
  | 0 => fail "too deep"
  | fuel + 1 => do
      let operand (c : Comparison) : Parse (List (Comparison × Expr)) := do
        let e ← parseLevel fuel .sum
        return (c, e) :: (← parseComparisons fuel)
      match comparison? (← peek) with
      | some c =>
          skip
          operand c
      | none =>
          if ← acceptName "in" then operand .within
          else if ← followedBy "not" "in" then
            skip
            skip
            operand .notWithin
          else return []

/-- Operations of a level. -/
def parseLevel : Nat → Level → Parse Expr
  | 0, _ => fail "too deep"
  | fuel + 1, l => do parseOperations fuel l (← parseOperand fuel l)

/-- What stands between the operations of a level. -/
def parseOperand : Nat → Level → Parse Expr
  | 0, _ => fail "too deep"
  | fuel + 1, l =>
      match l with
      | .sum => do
          let e ← parseLevel fuel .product
          match ← parseConcat fuel with
          | [] => return e
          | more => return .concat (e :: more)
      | .product => parseLevel fuel .power
      | .power => parseUnary fuel true

/-- The operations of a level after an expression. -/
def parseOperations : Nat → Level → Expr → Parse Expr
  | 0, _, _ => fail "too deep"
  | fuel + 1, l, e => do
      match l.operation? (← peek) with
      | some op =>
          skip
          parseOperations fuel l (.binary op e (← parseOperand fuel l))
      | none => return e

/-- What is put behind an expression as text. -/
def parseConcat : Nat → Parse (List Expr)
  | 0 => fail "too deep"
  | fuel + 1 => do
      if ← acceptSymbol "~" then
        let e ← parseLevel fuel .product
        return e :: (← parseConcat fuel)
      else return []

/-- An expression with signs before it and parts, calls and filters after it. -/
def parseUnary : Nat → Bool → Parse Expr
  | 0, _ => fail "too deep"
  | fuel + 1, withFilter => do
      let e ← parseSigned fuel
      let e ← parsePostfix fuel e
      if withFilter then parseFilters fuel e else return e

/-- A simplest expression with signs before it. -/
def parseSigned : Nat → Parse Expr
  | 0 => fail "too deep"
  | fuel + 1 => do
      if ← acceptSymbol "-" then return .minus (← parseUnary fuel false)
      else if ← acceptSymbol "+" then return .plus (← parseUnary fuel false)
      else parsePrimary fuel

/-- The simplest expressions. -/
def parsePrimary : Nat → Parse Expr
  | 0 => fail "too deep"
  | fuel + 1 => do
      match ← peek with
      | .name s =>
          skip
          match constant? s with
          | some v => return .constant v
          | none => return .name s
      | .string s =>
          skip
          return .constant (.text (← parseStrings fuel s) false)
      | .integer n =>
          skip
          return .constant (.int n)
      | .float x =>
          skip
          return .constant (.float x)
      | .symbol "(" =>
          skip
          let e ← parseTuple fuel true true none
          expectSymbol ")"
          return e
      | .symbol "[" =>
          skip
          return .list (← parseListItems fuel true)
      | .symbol "\x7b" =>
          skip
          return .map (← parseEntries fuel true)
      | t => fail ("unexpected " ++ Text.quotedString t.description)

/-- An expression, or several with commas between them.  `inParens` allows none at all. -/
def parseTuple : Nat → Bool → Bool → Option String → Parse Expr
  | 0, _, _, _ => fail "too deep"
  | fuel + 1, withChoice, inParens, mark => do
      match ← parseTupleItems fuel withChoice mark true with
      | ([e], false) => return e
      | ([], false) =>
          if inParens then return .tuple []
          else fail ("Expected an expression, got " ++ Text.quotedString (← peek).description)
      | (items, _) => return .tuple items

/-- The items of a tuple, and whether there is a comma. -/
def parseTupleItems : Nat → Bool → Option String → Bool → Parse (List Expr × Bool)
  | 0, _, _, _ => fail "too deep"
  | fuel + 1, withChoice, mark, isFirst => do
      if !isFirst then expectSymbol ","
      if endsTuple mark (← peek) then return ([], false)
      else
        let e ← if withChoice then parseExpr fuel else parseOr fuel
        if ← atSymbol "," then
          let (more, _) ← parseTupleItems fuel withChoice mark false
          return (e :: more, true)
        else return ([e], false)

/-- The items of a list up to its end. -/
def parseListItems : Nat → Bool → Parse (List Expr)
  | 0, _ => fail "too deep"
  | fuel + 1, isFirst => do
      if ← acceptSymbol "]" then return []
      else
        if !isFirst then expectSymbol ","
        if ← acceptSymbol "]" then return []
        else
          let e ← parseExpr fuel
          return e :: (← parseListItems fuel false)

/-- The entries of a mapping up to its end. -/
def parseEntries : Nat → Bool → Parse (List (Expr × Expr))
  | 0, _ => fail "too deep"
  | fuel + 1, isFirst => do
      if ← acceptSymbol "\x7d" then return []
      else
        if !isFirst then expectSymbol ","
        if ← acceptSymbol "\x7d" then return []
        else
          let k ← parseExpr fuel
          expectSymbol ":"
          let v ← parseExpr fuel
          return (k, v) :: (← parseEntries fuel false)

/-- The parts and calls after an expression. -/
def parsePostfix : Nat → Expr → Parse Expr
  | 0, _ => fail "too deep"
  | fuel + 1, e => do
      if ← acceptSymbol "." then
        match ← next with
        | .name s => parsePostfix fuel (.attribute e s)
        | .integer n => parsePostfix fuel (.item e (.constant (.int n)))
        | _ => fail "expected name or number"
      else if ← acceptSymbol "[" then
        match ← parseIndices fuel true with
        | [index] => parsePostfix fuel (.item e index)
        | indices => parsePostfix fuel (.item e (.tuple indices))
      else if ← atSymbol "(" then
        let a ← parseArgs fuel
        parsePostfix fuel (.call e a.args a.named a.rest a.restNamed)
      else return e

/-- The indices in brackets up to the closing one. -/
def parseIndices : Nat → Bool → Parse (List Expr)
  | 0, _ => fail "too deep"
  | fuel + 1, isFirst => do
      if ← acceptSymbol "]" then return []
      else
        if !isFirst then expectSymbol ","
        let e ← parseIndex fuel
        return e :: (← parseIndices fuel false)

/-- One index: an expression, or a slice. -/
def parseIndex : Nat → Parse Expr
  | 0 => fail "too deep"
  | fuel + 1 => do
      let part (stops : List String) : Parse (Option Expr) := do
        match ← peek with
        | .symbol s => if s ∈ stops then return none else some <$> parseExpr fuel
        | _ => some <$> parseExpr fuel
      let slice (start : Option Expr) : Parse Expr := do
        let stop ← part [":", "]", ","]
        if ← acceptSymbol ":" then return .slice start stop (← part ["]", ","])
        else return .slice start stop none
      if ← acceptSymbol ":" then slice none
      else
        let e ← parseExpr fuel
        if ← acceptSymbol ":" then slice (some e) else return e

/-- The filters, tests and calls after an expression. -/
def parseFilters : Nat → Expr → Parse Expr
  | 0, _ => fail "too deep"
  | fuel + 1, e => do
      if ← atSymbol "|" then
        skip
        parseFilters fuel (← parseFilter fuel (some e))
      else if ← acceptName "is" then parseFilters fuel (← parseTest fuel e)
      else if ← atSymbol "(" then
        let a ← parseArgs fuel
        parseFilters fuel (.call e a.args a.named a.rest a.restNamed)
      else return e

/-- One filter, from its name on. -/
def parseFilter : Nat → Option Expr → Parse Expr
  | 0, _ => fail "too deep"
  | fuel + 1, e => do
      let name ← parseDotted fuel (← takeName)
      let a ← if ← atSymbol "(" then parseArgs fuel else pure Args.none
      return .filter e name a.args a.named a.rest a.restNamed

/-- Filters with bars between them, from the first name on. -/
def parseFilterChain : Nat → Option Expr → Parse Expr
  | 0, _ => fail "too deep"
  | fuel + 1, e => do
      let e ← parseFilter fuel e
      if ← acceptSymbol "|" then parseFilterChain fuel (some e) else return e

/-- A test, from its name on. -/
def parseTest : Nat → Expr → Parse Expr
  | 0, _ => fail "too deep"
  | fuel + 1, e => do
      let negated ← acceptName "not"
      let name ← parseDotted fuel (← takeName)
      let a ←
        if ← atSymbol "(" then parseArgs fuel
        else if startsTestArgument (← peek) then
          if ← atName "is" then fail "You cannot chain multiple tests with is"
          else
            let arg ← parsePostfix fuel (← parsePrimary fuel)
            pure { Args.none with args := [arg] }
        else pure Args.none
      let test : Expr := .test e name a.args a.named a.rest a.restNamed
      return if negated then .negation test else test

/-- The arguments of a call in parentheses. -/
def parseArgs : Nat → Parse Args
  | 0 => fail "too deep"
  | fuel + 1 => do
      expectSymbol "("
      parseArgsFrom fuel Args.none true

/-- The arguments of a call after those already read. -/
def parseArgsFrom : Nat → Args → Bool → Parse Args
  | 0, _, _ => fail "too deep"
  | fuel + 1, a, isFirst => do
      if ← acceptSymbol ")" then return a
      else
        if !isFirst then expectSymbol ","
        if ← acceptSymbol ")" then return a
        else if ← atSymbol "*" then
          ensureArgs (a.rest.isNone && a.restNamed.isNone)
          skip
          parseArgsFrom fuel { a with rest := some (← parseExpr fuel) } false
        else if ← atSymbol "**" then
          ensureArgs a.restNamed.isNone
          skip
          parseArgsFrom fuel { a with restNamed := some (← parseExpr fuel) } false
        else
          let key ← match ← peek with
            | .name s => do
                if (← lookAhead).isSymbol "=" then pure (some s) else pure none
            | _ => pure none
          match key with
          | some s =>
              ensureArgs a.restNamed.isNone
              skip
              skip
              let e ← parseExpr fuel
              parseArgsFrom fuel { a with named := a.named ++ [(s, e)] } false
          | none =>
              ensureArgs (a.rest.isNone && a.restNamed.isNone && a.named.isEmpty)
              let e ← parseExpr fuel
              parseArgsFrom fuel { a with args := a.args ++ [e] } false

end

/-! ### Targets -/

/-- A name as a target. -/
def nameTarget (s : String) : Parse Target :=
  if (constant? s).isSome then fail "can't assign to 'name'" else pure (.name s)

/-- What an expression that is no target is called. -/
def Expr.kindName : Expr → String
  | .constant _ => "const"
  | .name _ => "name"
  | .tuple _ => "tuple"
  | .list _ => "list"
  | .map _ => "dict"
  | .attribute .. => "getattr"
  | .item .. => "getitem"
  | .call .. => "call"
  | _ => "expr"

mutual

/-- An expression as a target. -/
def Expr.asTarget? : Expr → Option Target
  | .name s => some (.name s)
  | .attribute (.name object) name => some (.attribute object name)
  | .tuple items => (asTargets? items).map .tuple
  | _ => none

/-- Expressions as targets. -/
def asTargets? : List Expr → Option (List Target)
  | [] => some []
  | e :: es => do return (← e.asTarget?) :: (← asTargets? es)

end

/-- An expression as a target, which it must be. -/
def Expr.asTarget (e : Expr) : Parse Target :=
  match e.asTarget? with
  | some t => pure t
  | none => fail ("can't assign to " ++ Text.quotedString e.kindName)

/-- The items of a target, and whether there is a comma.  `dotted` allows attributes of
namespaces. -/
def parseTargetItems (dotted : Bool) (mark : Option String) :
    Nat → Bool → Parse (List Expr × Bool)
  | 0, _ => fail "too deep"
  | fuel + 1, isFirst => do
      if !isFirst then expectSymbol ","
      if endsTuple mark (← peek) then return ([], false)
      else
        let e ← parsePrimary (fuel + 1)
        let e ← match e with
          | .name object => do
              if dotted && (← atSymbol ".") then
                skip
                pure (.attribute (.name object) (← takeName))
              else pure e
          | e => pure e
        if ← atSymbol "," then
          let (more, _) ← parseTargetItems dotted mark fuel false
          return (e :: more, true)
        else return ([e], false)

/-- What a value is bound to. -/
def parseTarget (dotted : Bool) (mark : Option String) (fuel : Nat) : Parse Target := do
  match ← parseTargetItems dotted mark fuel true with
  | ([e], false) => e.asTarget
  | ([], false) =>
      fail ("Expected an expression, got " ++ Text.quotedString (← peek).description)
  | (items, _) => (Expr.tuple items).asTarget

/-- A name that a value is bound to. -/
def parseNameTarget : Parse String := do
  let s ← takeName
  let _ ← nameTarget s
  return s

/-! ### Statements -/

/-- Words in quotes, with `or` between them. -/
def alternatives (words : List String) : String := " or ".intercalate (words.map Text.quotedString)

/-- The failure of a tag that does not belong where it stands, or of the end of the template. -/
def wrongTag {α : Type} (name : Option String) (ends : List (List String)) : Parse α := do
  let first := match name with
    | some s => "Encountered unknown tag " ++ Text.quotedString s ++ "."
    | none => "Unexpected end of template."
  let second := match ends with
    | [] => []
    | inner :: _ =>
        if name.any fun s => ends.any fun words => s ∈ words then
          ["You probably made a nesting mistake. Jinja is expecting this tag, but currently "
            ++ "looking for " ++ alternatives inner ++ "."]
        else ["Jinja was looking for the following tags: " ++ alternatives inner ++ "."]
  let third := match (← get).tags with
    | [] => []
    | tag :: _ =>
        ["The innermost block that needs to be closed is " ++ Text.quotedString tag ++ "."]
  fail (" ".intercalate (first :: second ++ third))

/-- Whether a text is white space and nothing else. -/
def isSpaceText (s : String) : Bool := s ≠ "" && Text.isBlankText s.toList

/-- Whether a statement is white space. -/
def Stmt.isSpace : Stmt → Bool
  | .text s => isSpaceText s
  | _ => false

/-- The parameters of a macro up to the closing parenthesis. -/
def parseParams : Nat → List Parameter → Parse (List Parameter)
  | 0, _ => fail "too deep"
  | fuel + 1, params => do
      if ← acceptSymbol ")" then return params
      else
        if params ≠ [] then expectSymbol ","
        let s ← parseNameTarget
        if ← acceptSymbol "=" then
          let e ← parseExpr fuel
          parseParams fuel (params ++ [(s, some e)])
        else if params.any fun p => p.2.isSome then
          fail "non-default argument follows default argument"
        else parseParams fuel (params ++ [(s, none)])

/-- Bindings with commas between them, up to the end of the tag. -/
def parseBindings : Nat → Bool → Parse (List (Target × Expr))
  | 0, _ => fail "too deep"
  | fuel + 1, isFirst => do
      if (← peek).isBlockEnd then return []
      else
        if !isFirst then expectSymbol ","
        let t ← parseTarget false none (fuel + 1)
        expectSymbol "="
        let e ← parseExpr fuel
        return (t, e) :: (← parseBindings fuel false)

/-- Expressions with commas between them, up to the end of the tag. -/
def parsePrinted : Nat → Bool → Parse (List Stmt)
  | 0, _ => fail "too deep"
  | fuel + 1, isFirst => do
      if (← peek).isBlockEnd then return []
      else
        if !isFirst then expectSymbol ","
        let e ← parseExpr fuel
        return .print e :: (← parsePrinted fuel false)

/-- Passes words that tell whether a template sees the context. -/
def skipContextWords : Parse Bool := do
  if (← followedBy "with" "context") || (← followedBy "without" "context") then
    skip
    skip
    return true
  else return false

/-- Passes the names that are taken from a template. -/
def skipImported : Nat → Bool → Parse Unit
  | 0, _ => fail "too deep"
  | fuel + 1, isFirst => do
      if !isFirst then expectSymbol ","
      match ← peek with
      | .name _ =>
          if ← skipContextWords then pure ()
          else
            let s ← parseNameTarget
            if s.startsWith "_" then fail "names starting with an underline can not be imported"
            if ← acceptName "as" then
              let _ ← parseNameTarget
            if ← skipContextWords then pure ()
            else if ← atSymbol "," then skipImported fuel false
            else pure ()
      | _ => unexpected "name"

/-- The words that begin statements, except those that end others. -/
def statementWords : List String :=
  ["for", "if", "block", "extends", "print", "macro", "include", "from", "import", "set", "with",
    "autoescape", "call", "filter"]

mutual

/-- Statements up to a tag that begins with one of the words `ends`, or up to the end. -/
def parseBody : Nat → Option (List String) → Parse (List Stmt)
  | 0, _ => fail "too deep"
  | fuel + 1, ends => do
      match ← peek with
      | .data s =>
          skip
          return .text s :: (← parseBody fuel ends)
      | .variableStart =>
          skip
          let e ← parseTuple fuel true false none
          expect Token.variableEnd.description Token.isVariableEnd
          return .print e :: (← parseBody fuel ends)
      | .blockStart =>
          skip
          let t ← peek
          if ends.any fun words => words.any t.isName then return []
          else
            let stmts ← parseStmt fuel
            expectBlockEnd
            return stmts ++ (← parseBody fuel ends)
      | _ => return []

/-- The body of a statement, up to a tag that begins with one of the words `ends`, which is not
passed. -/
def parseInner : Nat → List String → Parse (List Stmt)
  | 0, _ => fail "too deep"
  | fuel + 1, ends => do
      let _ ← acceptSymbol ":"
      expectBlockEnd
      let outer := (← get).ends
      modify fun r => { r with ends := ends :: r.ends }
      let body ← parseBody fuel (some ends)
      modify fun r => { r with ends := outer }
      if (← peek).isStop then wrongTag none (ends :: outer) else return body

/-- The body of a statement, whose end is passed. -/
def parseWhole : Nat → String → Parse (List Stmt)
  | 0, _ => fail "too deep"
  | fuel + 1, word => do
      let body ← parseInner fuel [word]
      skip
      return body

/-- One statement, from its first word on. -/
def parseStmt : Nat → Parse (List Stmt)
  | 0 => fail "too deep"
  | fuel + 1 => do
      match ← peek with
      | .name s =>
          if s ∈ statementWords then
            let outer := (← get).tags
            modify fun r => { r with tags := s :: r.tags }
            skip
            let stmts ← parseStmtOf fuel s
            modify fun r => { r with tags := outer }
            return stmts
          else wrongTag (some s) (← get).ends
      | _ => fail "tag name expected"

/-- One statement after its first word. -/
def parseStmtOf : Nat → String → Parse (List Stmt)
  | 0, _ => fail "too deep"
  | fuel + 1, word => do
      match word with
      | "for" =>
          let target ← parseTarget false (some "in") fuel
          expectName "in"
          let items ← parseTuple fuel false false (some "recursive")
          let test ← if ← acceptName "if" then some <$> parseExpr fuel else pure none
          let isRecursive ← acceptName "recursive"
          let body ← parseInner fuel ["endfor", "else"]
          let otherwise ← if (← next).isName "endfor" then pure [] else parseWhole fuel "endfor"
          return [.loop target items test isRecursive body otherwise]
      | "if" =>
          let (cases, otherwise) ← parseCases fuel
          return [.branch cases otherwise]
      | "block" =>
          let name ← takeName
          let isScoped ← acceptName "scoped"
          let isRequired ← acceptName "required"
          if ← atSymbol "-" then
            fail ("Block names in Jinja have to be valid Python identifiers and may not contain "
              ++ "hyphens, use an underscore instead.")
          let body ← parseWhole fuel "endblock"
          if isRequired && !(body.all Stmt.isSpace) then
            fail "Required blocks can only contain comments or whitespace"
          let _ ← acceptName name
          return [.block name isScoped isRequired body]
      | "extends" => return [.extend (← parseExpr fuel)]
      | "print" => parsePrinted fuel true
      | "macro" =>
          let name ← parseNameTarget
          expectSymbol "("
          let params ← parseParams fuel []
          return [.define name params (← parseWhole fuel "endmacro")]
      | "include" =>
          let e ← parseExpr fuel
          let ignores ← if ← followedBy "ignore" "missing" then
              skip
              skip
              pure true
            else pure false
          let _ ← skipContextWords
          return [.insert e ignores]
      | "import" =>
          let e ← parseExpr fuel
          expectName "as"
          let _ ← parseNameTarget
          let _ ← skipContextWords
          return [.load e]
      | "from" =>
          let e ← parseExpr fuel
          expectName "import"
          skipImported fuel true
          return [.load e]
      | "set" =>
          let target ← parseTarget true none fuel
          if ← acceptSymbol "=" then
            return [.assign target (← parseTuple fuel true false none)]
          else
            let filter ← if ← acceptSymbol "|" then some <$> parseFilterChain fuel none else pure none
            return [.assignBlock target filter (← parseWhole fuel "endset")]
      | "with" =>
          let bindings ← parseBindings fuel true
          return [.scope bindings (← parseWhole fuel "endwith")]
      | "autoescape" =>
          let e ← parseExpr fuel
          return [.escaping e (← parseWhole fuel "endautoescape")]
      | "call" =>
          let params ← if ← acceptSymbol "(" then parseParams fuel [] else pure []
          let e ← parseExpr fuel
          match e with
          | .call .. => return [.call params e (← parseWhole fuel "endcall")]
          | _ => fail "expected call"
      | _ =>
          let filter ← parseFilterChain fuel none
          return [.filterBlock filter (← parseWhole fuel "endfilter")]

/-- The cases of a branch, and what stands after `else`. -/
def parseCases : Nat → Parse (List (Expr × List Stmt) × List Stmt)
  | 0 => fail "too deep"
  | fuel + 1 => do
      let test ← parseTuple fuel false false none
      let body ← parseInner fuel ["elif", "else", "endif"]
      match ← next with
      | .name "elif" =>
          let (cases, otherwise) ← parseCases fuel
          return ((test, body) :: cases, otherwise)
      | .name "else" => return ([(test, body)], ← parseWhole fuel "endif")
      | _ => return ([(test, body)], [])

end

/-- The reader before the first token. -/
def Reader.start (f : Feed) : Except Malformed Reader :=
  match f.tokens with
  | t :: rest => .ok ⟨t, rest, f.failure, [], []⟩
  | [] =>
      match f.failure with
      | some e => .error e
      | none => .ok ⟨⟨.stop, 1⟩, [], none, [], []⟩

/-- **The syntax of a template.** -/
def parse (f : Feed) : Except Malformed (List Stmt) := do
  let r ← Reader.start f
  let (stmts, _) ← (parseBody (40 * (f.tokens.length + 10)) none).run r
  return stmts

end EntryTemplates.Render
