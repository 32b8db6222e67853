/-
**Rendering: values of expressions, texts of statements.**

All functions bound their recursion by a number, so that a macro that calls itself without end
fails.  A scope is given by its number.

Main definitions:

* `EntryTemplates.Render.evalExpr` — the value of an expression;
* `EntryTemplates.Render.callValue` — what a call gives;
* `EntryTemplates.Render.runBody` — the text that statements make.
-/

import EntryTemplates.Render.Check
import EntryTemplates.Render.Filter

set_option relaxedAutoImplicit false
set_option autoImplicit false

namespace EntryTemplates.Render

/-- The failure of calls nested too deeply. -/
def tooDeep {α : Type} : Eval α := Eval.fail .tooDeep "maximum recursion depth exceeded"

/-! ### Names -/

/-- What is there without being defined. -/
def builtin? (name : String) : Option Builtin :=
  match name with
  | "range" => some .range
  | "dict" => some .dict
  | "lipsum" => some .lipsum
  | "cycler" => some .cycler
  | "joiner" => some .joiner
  | "namespace" => some .namespaceOf
  | _ => none

/-- **The value of a name.** -/
def valueOf (scope : Nat) (name : String) : Eval Value := do
  match (← get).find? scope name with
  | some v => return v
  | none =>
      match builtin? name with
      | some b => return .builtin b
      | none => return absent (Text.quotedString name ++ " is undefined")

/-- The number of the scope that binds a name. -/
def binderOf (m : Memory) (name : String) : Nat → Nat → Option Nat
  | 0, _ => none
  | depth + 1, scope =>
      match m.scopes[scope]? with
      | some s =>
          if (s.names.lookup name).isSome then some scope
          else s.outer.bind fun outer => binderOf m name depth outer
      | none => none

/-- Gives a name another value where it is bound. -/
def rebind (scope : Nat) (name : String) (v : Value) : Eval Unit := do
  let m ← get
  match binderOf m name (m.scopes.size + 1) scope with
  | some owner => Eval.bind owner name v
  | none => return ()

/-- The items that a value is taken apart into. -/
def unpacked (v : Value) : Eval (List Value) := do
  match v with
  | .null | .bool _ | .int _ | .float _ | .slice .. | .method .. | .builtin _ | .object _ =>
      Eval.wrongType ("cannot unpack non-iterable " ++ (← Eval.typeName v) ++ " object")
  | v => Eval.items v

mutual

/-- Binds the names of a target. -/
def bindTarget (scope : Nat) : Target → Value → Eval Unit
  | .name s, v => Eval.bind scope s v
  | .tuple targets, v => do
      let items ← unpacked v
      if items.length < targets.length then
        Eval.fail .wrongValue
          s!"not enough values to unpack (expected {targets.length}, got {items.length})"
      else if targets.length < items.length then
        Eval.fail .wrongValue s!"too many values to unpack (expected {targets.length})"
      else bindTargets scope targets items
  | .attribute object name, v => do
      match ← valueOf scope object with
      | .object n =>
          match ← Eval.object? n with
          | some (.space entries) =>
              Eval.update n (.space (← Value.putEntry (.ofString name) v entries))
          | _ => Eval.fail .notFound "cannot assign attribute on non-namespace object"
      | _ => Eval.fail .notFound "cannot assign attribute on non-namespace object"

/-- Binds the names of several targets. -/
def bindTargets (scope : Nat) : List Target → List Value → Eval Unit
  | t :: ts, v :: vs => do
      bindTarget scope t v
      bindTargets scope ts vs
  | _, _ => return ()

end

mutual

/-- The objects whose attributes a target binds are namespaces. -/
def checkTarget (scope : Nat) : Target → Eval Unit
  | .name _ => return ()
  | .tuple targets => checkTargets scope targets
  | .attribute object _ => do
      match ← valueOf scope object with
      | .object n =>
          match ← Eval.object? n with
          | some (.space _) => return ()
          | _ => Eval.fail .notFound "cannot assign attribute on non-namespace object"
      | _ => Eval.fail .notFound "cannot assign attribute on non-namespace object"

/-- The objects whose attributes several targets bind are namespaces. -/
def checkTargets (scope : Nat) : List Target → Eval Unit
  | [] => return ()
  | t :: ts => do
      checkTarget scope t
      checkTargets scope ts

end

/-! ### Calls that run no statements -/

/-- A range from its bounds. -/
def makeRange (args : List Value) (named : List (String × Value)) : Eval Value := do
  if !named.isEmpty then Eval.wrongType "range() takes no keyword arguments"
  else
    match ← args.mapM asInt with
    | [] => Eval.wrongType "range expected at least 1 argument, got 0"
    | [stop] => return .range 0 stop 1
    | [start, stop] => return .range start stop 1
    | [start, stop, by_] =>
        if by_ = 0 then Eval.fail .wrongValue "range() arg 3 must not be zero"
        else return .range start stop by_
    | all => Eval.wrongType s!"range expected at most 3 arguments, got {all.length}"

/-- The entries of a mapping from pairs and names. -/
def makeEntries (what : String) (args : List Value) (named : List (String × Value)) :
    Eval (List (Value × Value)) := do
  match args with
  | [] => return namedEntries named
  | [v] => putAll (namedEntries named) (← putAll (← entriesOf v) [])
  | args => Eval.wrongType s!"{what} expected at most 1 argument, got {args.length}"

/-- Paragraphs of words that chance chooses, which is only followed as far as chance plays no
part. -/
def wordsOfChance (args : List Value) (named : List (String × Value)) : Eval Value := do
  let sig : Signature :=
    ⟨"generate_lorem_ipsum", [("n", some (.int 5)), ("html", some (.bool true)),
      ("min", some (.int 20)), ("max", some (.int 100))], 0⟩
  match ← sig.bind args named with
  | [n, html, low, high] =>
      if (← asInt n) ≤ 0 then return .text "" (← html.isTrue)
      else
        let low ← asInt low
        let high ← asInt high
        if high ≤ low then
          Eval.fail .wrongValue ("empty range for randrange() (" ++ (← Eval.number low) ++ ", "
            ++ (← Eval.number high) ++ ", " ++ (← Eval.number (high - low)) ++ ")")
        else Eval.fail .chance "words are chosen by chance"
  | _ => return .null

/-- What is made by something that is there without being defined. -/
def make (b : Builtin) (args : List Value) (named : List (String × Value)) : Eval Value := do
  match b with
  | .range => makeRange args named
  | .dict => return .map (← makeEntries "dict" args named)
  | .namespaceOf => Eval.create (.space (← makeEntries "dict" args named))
  | .lipsum => wordsOfChance args named
  | .cycler =>
      if args.isEmpty then Eval.fail .unfit "at least one item has to be provided"
      else Eval.create (.cycler args 0)
  | .joiner =>
      let sig : Signature := ⟨"Joiner.__init__", [("sep", some (.ofString ", "))], 1⟩
      match ← sig.bind args named with
      | [mark] => Eval.create (.joiner mark false)
      | _ => return .null

/-- What a method of an object gives. -/
def callObjectMethod (n : Nat) (name : String) (args : List Value) : Eval Value := do
  match ← Eval.object? n with
  | some (.loop l) =>
      if name = "cycle" then
        if args.isEmpty then Eval.wrongType "no items for cycling given"
        else return args.getD (l.place % args.length) .null
      else
        let isSame ← match l.last with
          | some vs => Value.equals (.tuple vs) (.tuple args)
          | none => pure false
        if isSame then return .bool false
        else
          Eval.update n (.loop { l with last := some args })
          return .bool true
  | some (.cycler items place) =>
      if name = "next" then
        Eval.update n (.cycler items ((place + 1) % items.length))
        return items.getD place .null
      else
        Eval.update n (.cycler items 0)
        return .null
  | _ => return .null

/-- The failure of a value that cannot be called. -/
def notCallable (v : Value) : Eval Value := do
  Eval.wrongType ("'" ++ (← Eval.typeName v) ++ "' object is not callable")

/-! ### Arguments of macros -/

/-- The arguments of a macro: those for its parameters, where some may be missing, and others by
their names. -/
structure Supplied where
  values : List (Option Value)
  extra : List (String × Value)

/-- The name of a macro in reports. -/
def Macro.label (f : Macro) : String :=
  match f.name with
  | some name => Text.quotedString name
  | none => "None"

/-- The values for the parameters that no plain argument is left for. -/
def takeNamed : List Parameter → List (String × Value) → Supplied
  | [], named => ⟨[], named⟩
  | p :: ps, named =>
      let rest := takeNamed ps (named.filter fun a => a.1 ≠ p.1)
      ⟨named.lookup p.1 :: rest.values, rest.extra⟩

/-- **The arguments of a macro by the names that its body knows them by.** -/
def Macro.supply (f : Macro) (args : List Value) (named : List (String × Value)) :
    Except Failure (List (Option Value) × List (String × Value)) := do
  let count := f.params.length
  let given := args.take count
  let s := takeNamed (f.params.drop given.length) named
  let hasCaller :=
    if given.length < count then (f.params.drop given.length).any fun p => p.1 = "caller"
    else f.params.any fun p => p.1 = "caller"
  let (specials, extra) :=
    if f.takesCaller && !hasCaller then
      let caller := match s.extra.lookup "caller" with
        | some v => v
        | none => absent "No caller defined"
      ([("caller", caller)], s.extra.filter fun a => a.1 ≠ "caller")
    else ([], s.extra)
  let specials ←
    if f.takesNamed then pure (specials ++ [("kwargs", Value.map (namedEntries extra))])
    else
      match extra with
      | [] => pure specials
      | (name, _) :: _ =>
          if extra.any fun a => a.1 = "caller" then
            Value.wrongType ("macro " ++ f.label ++ " was invoked with two values for the special "
              ++ "caller argument. This is most likely a bug.")
          else
            Value.wrongType ("macro " ++ f.label ++ " takes no keyword argument "
              ++ Text.quotedString name)
  let specials ←
    if f.takesMore then pure (specials ++ [("varargs", Value.tuple (args.drop count))])
    else if count < args.length then
      Value.wrongType ("macro " ++ f.label ++ s!" takes not more than {count} argument(s)")
    else pure specials
  return (given.map some ++ s.values, specials)

/-- A macro from its definition. -/
def Macro.ofDefinition (name : Option String) (params : List Parameter) (body : List Stmt)
    (scope : Nat) : Macro :=
  let takes (s : String) : Bool := stmtsMention s body && !(params.any fun p => p.1 = s)
  ⟨name, params, body, scope, stmtsMention "caller" body, takes "kwargs", takes "varargs"⟩

/-! ### Templates that are not there -/

/-- The failure of another template, of which there are none. -/
def noTemplate {α : Type} (v : Value) : Eval α := do
  match v with
  | .undefined message _ => Eval.missing message
  | v =>
      Eval.ensureKey v
      Eval.fail .noTemplate (← Eval.text v)

/-- The failure of other templates, none of which is there. -/
def noTemplates {α : Type} (items : List Value) : Eval α := do
  if items.isEmpty then
    Eval.fail .noTemplates "Tried to select from an empty list of templates."
  else
    let names ← items.mapM fun v => do
      match v with
      | .undefined message _ => Eval.worded message
      | v => Eval.text v
    Eval.fail .noTemplates
      ("none of the templates given were found: " ++ ", ".intercalate names)

/-- The failure of one template, or of several from which the first one is taken that is there. -/
def noTemplateAmong {α : Type} (v : Value) : Eval α := do
  match v with
  | .text .. => noTemplate v
  | .undefined message _ => Eval.missing message
  | v =>
      if ← v.isTrue then noTemplates (← Eval.items v) else noTemplates []

/-! ### Expressions and statements -/

mutual

/-- **The value of an expression** in a scope. -/
def evalExpr : Nat → Nat → Expr → Eval Value
  | 0, _, _ => tooDeep
  | fuel + 1, scope, e => do
      match e with
      | .constant v => return v
      | .name s => valueOf scope s
      | .tuple items => return .tuple (← items.mapM (evalExpr fuel scope))
      | .list items => return .list (← items.mapM (evalExpr fuel scope))
      | .map entries => evalEntries fuel scope entries
      | .choice test yes no line =>
          if ← (← evalExpr fuel scope test).isTrue then evalExpr fuel scope yes
          else
            match no with
            | some no => evalExpr fuel scope no
            | none =>
                return .undefined (.ok <| s!"the inline if-expression on line {line} evaluated to false "
                  ++ "and no else section was defined.") false
      | .either a b =>
          let v ← evalExpr fuel scope a
          if ← v.isTrue then return v else evalExpr fuel scope b
      | .both a b =>
          let v ← evalExpr fuel scope a
          if ← v.isTrue then evalExpr fuel scope b else return v
      | .negation a => return .bool !(← (← evalExpr fuel scope a).isTrue)
      | .compare a more => evalCompare fuel scope (← evalExpr fuel scope a) more
      | .binary op a b =>
          let v ← evalExpr fuel scope a
          let w ← evalExpr fuel scope b
          if op = .mod then remainder v w else v.operate (← get).typeOf op w
      | .concat items =>
          let values ← items.mapM (evalExpr fuel scope)
          joined values (.ofString "")
      | .minus a => do (← evalExpr fuel scope a).opposite (← get).typeOf
      | .plus a => do (← evalExpr fuel scope a).positive (← get).typeOf
      | .attribute a name => do member (← evalExpr fuel scope a) name
      | .item a (.slice x y z) =>
          let v ← evalExpr fuel scope a
          sliced v (← evalOption fuel scope x) (← evalOption fuel scope y)
            (← evalOption fuel scope z)
      | .item a index =>
          let v ← evalExpr fuel scope a
          item v (← evalExpr fuel scope index)
      | .slice x y z =>
          return .slice (← evalOption fuel scope x) (← evalOption fuel scope y)
            (← evalOption fuel scope z)
      | .call f args named rest restNamed =>
          evalCall fuel scope f args named rest restNamed []
      | .filter a name args named rest restNamed =>
          let v ← match a with
            | some a => evalExpr fuel scope a
            | none => pure (.ofString "")
          evalFilter fuel scope v name args named rest restNamed
      | .test a name args named rest restNamed =>
          let v ← evalExpr fuel scope a
          let (args, named) ← evalArgs fuel scope args named rest restNamed
          if testNames.contains name then return .bool (← applyTest name v args named)
          else
            Eval.fail .notFound ("No test named " ++ Text.quotedString name ++ " found.")

/-- The value of an expression, or null if there is none. -/
def evalOption : Nat → Nat → Option Expr → Eval Value
  | 0, _, _ => tooDeep
  | fuel + 1, scope, e =>
      match e with
      | some e => evalExpr fuel scope e
      | none => return .null

/-- A mapping from its entries. -/
def evalEntries : Nat → Nat → List (Expr × Expr) → Eval Value
  | 0, _, _ => tooDeep
  | fuel + 1, scope, entries => do
      let pairs ← entries.mapM fun (k, v) => do
        let k ← evalExpr fuel scope k
        return (k, ← evalExpr fuel scope v)
      return .map (← putAll pairs [])

/-- The answer of comparisons one after another, each of them with the value before. -/
def evalCompare : Nat → Nat → Value → List (Comparison × Expr) → Eval Value
  | 0, _, _, _ => tooDeep
  | _ + 1, _, _, [] => return .bool true
  | fuel + 1, scope, v, (c, e) :: rest => do
      let w ← evalExpr fuel scope e
      if ← v.compare (← get).typeOf c w then evalCompare fuel scope w rest
      else return .bool false

/-- The arguments of a call. -/
def evalArgs : Nat → Nat → List Expr → List (String × Expr) → Option Expr → Option Expr →
    Eval (List Value × List (String × Value))
  | 0, _, _, _, _, _ => tooDeep
  | fuel + 1, scope, args, named, rest, restNamed => do
      let args ← args.mapM (evalExpr fuel scope)
      let named ← named.mapM fun (k, e) => do return (k, ← evalExpr fuel scope e)
      let more ← match rest with
        | some e => do Eval.items (← evalExpr fuel scope e)
        | none => pure []
      let moreNamed ← match restNamed with
        | some e => do
            (← entriesOf (← evalExpr fuel scope e)).mapM fun (k, v) => do
              return (← Eval.text k, v)
        | none => pure []
      return (args ++ more, named ++ moreNamed)

/-- What a call gives; `extra` are further named arguments. -/
def evalCall : Nat → Nat → Expr → List Expr → List (String × Expr) → Option Expr → Option Expr →
    List (String × Value) → Eval Value
  | 0, _, _, _, _, _, _, _ => tooDeep
  | fuel + 1, scope, f, args, named, rest, restNamed, extra => do
      let callee ← evalExpr fuel scope f
      let (args, named) ← evalArgs fuel scope args named rest restNamed
      match callee with
      | .method receiver name =>
          if changes receiver name then
            let (result, receiver) ← change receiver name args named
            match f with
            | .attribute (.name s) _ => rebind scope s receiver
            | _ => pure ()
            return result
          else callValue fuel callee args (named ++ extra)
      | callee => callValue fuel callee args (named ++ extra)

/-- **What a call gives.** -/
def callValue : Nat → Value → List Value → List (String × Value) → Eval Value
  | 0, _, _, _ => tooDeep
  | fuel + 1, f, args, named => do
      match f with
      | .undefined message _ => Eval.missing message
      | .method (.object n) name => callObjectMethod n name args
      | .method receiver name => callMethod receiver name args named
      | .builtin b => make b args named
      | .object n =>
          match ← Eval.object? n with
          | some (.procedure m) => callMacro fuel m args named
          | some (.loop l) =>
              match l.again, args with
              | some again, v :: _ => Eval.made (← runLoop fuel again true true v (l.depth + 1))
              | some _, [] =>
                  Eval.wrongType
                    "LoopContext.__call__() missing 1 required positional argument: 'iterable'"
              | none, _ =>
                  Eval.wrongType
                    "The loop must have the 'recursive' marker to be called recursively."
          | some (.joiner mark isUsed) =>
              if isUsed then return mark
              else
                Eval.update n (.joiner mark true)
                return .ofString ""
          | some (.block name) => Eval.made (← runBlock fuel 0 name)
          | _ => notCallable f
      | f => notCallable f

/-- What a filter in an expression makes of a value. -/
def evalFilter : Nat → Nat → Value → String → List Expr → List (String × Expr) → Option Expr →
    Option Expr → Eval Value
  | 0, _, _, _, _, _, _, _ => tooDeep
  | fuel + 1, scope, v, name, args, named, rest, restNamed => do
      let (args, named) ← evalArgs fuel scope args named rest restNamed
      if filterNames.contains name then applyFilter (fuel + 1) name v args named
      else Eval.fail .notFound ("No filter named " ++ Text.quotedString name ++ " found.")

/-- What a chain of filters makes of the text of a block. -/
def evalChain : Nat → Nat → Value → Expr → Eval Value
  | 0, _, _, _ => tooDeep
  | fuel + 1, scope, v, e => do
      match e with
      | .filter inner name args named rest restNamed =>
          let v ← match inner with
            | some inner => evalChain fuel scope v inner
            | none => pure v
          evalFilter fuel scope v name args named rest restNamed
      | e => evalExpr fuel scope e

/-- The text that a macro makes of its arguments. -/
def callMacro : Nat → Macro → List Value → List (String × Value) → Eval Value
  | 0, _, _, _ => tooDeep
  | fuel + 1, m, args, named => do
      let (values, specials) ← m.supply args named
      let scope ← Eval.openScope m.scope
      for (name, v) in specials do
        Eval.bind scope name v
      for ((name, _), v) in m.params.zip values do
        match v with
        | some v => Eval.bind scope name v
        | none => pure ()
      for ((name, standard), v) in m.params.zip values do
        match v, standard with
        | some _, _ => pure ()
        | none, some e => Eval.bind scope name (← evalExpr fuel scope e)
        | none, none =>
            Eval.bind scope name
              (absent ("parameter " ++ Text.quotedString name ++ " was not provided"))
      Eval.made (← runBody fuel scope m.body)

/-- **The text that statements make** in a scope. -/
def runBody : Nat → Nat → List Stmt → Eval String
  | 0, _, _ => tooDeep
  | fuel + 1, scope, stmts => do return String.join (← stmts.mapM (runStmt fuel scope))

/-- The text that statements make in a scope of their own. -/
def runInner : Nat → Nat → List Stmt → Eval String
  | 0, _, _ => tooDeep
  | fuel + 1, scope, stmts => do runBody fuel (← Eval.openScope scope) stmts

/-- The text of a block, which lies in a scope inside another one. -/
def runBlock : Nat → Nat → String → Eval String
  | 0, _, _ => tooDeep
  | fuel + 1, outer, name => do
      let scope ← Eval.openScope outer
      Eval.bind scope "super"
        (absent ("there is no parent block called " ++ Text.quotedString name ++ "."))
      match (← get).blocks.lookup name with
      | some body => runBody fuel scope body
      | none => return ""

/-- The text that the first fitting case of a branch makes. -/
def runCases : Nat → Nat → List (Expr × List Stmt) → List Stmt → Eval String
  | 0, _, _, _ => tooDeep
  | fuel + 1, scope, cases, otherwise => do
      match cases with
      | [] => runBody fuel scope otherwise
      | (e, body) :: rest =>
          if ← (← evalExpr fuel scope e).isTrue then runBody fuel scope body
          else runCases fuel scope rest otherwise

/-- The items that a loop is for. -/
def loopItems : Nat → LoopBody → List Value → Eval (List Value)
  | 0, _, _ => tooDeep
  | fuel + 1, l, items =>
      match l.test with
      | none => return items
      | some test => items.filterM fun v => do
          let scope ← Eval.openScope l.scope
          bindTarget scope l.target v
          (← evalExpr fuel scope test).isTrue

/-- The text that a loop makes; `isExtended` tells that the loop itself has a name. -/
def runLoop : Nat → LoopBody → Bool → Bool → Value → Nat → Eval String
  | 0, _, _, _, _, _ => tooDeep
  | fuel + 1, l, isExtended, isRecursive, v, depth => do
      let items ← loopItems fuel l (← Eval.items v)
      if items.isEmpty then runInner fuel l.scope l.otherwise
      else if isExtended then
        let first : Loop := ⟨items.toArray, 0, depth, none, if isRecursive then some l else none⟩
        let this ← Eval.create (.loop first)
        let texts ← items.zipIdx.mapM fun (v, place) => do
          match this with
          | .object n =>
              match ← Eval.object? n with
              | some (.loop now) => Eval.update n (.loop { now with place })
              | _ => pure ()
          | _ => pure ()
          let scope ← Eval.openScope l.scope
          Eval.bind scope "loop" this
          bindTarget scope l.target v
          runBody fuel scope l.body
        return String.join texts
      else
        let texts ← items.mapM fun v => do
          let scope ← Eval.openScope l.scope
          bindTarget scope l.target v
          runBody fuel scope l.body
        return String.join texts

/-- **The text that a statement makes** in a scope. -/
def runStmt : Nat → Nat → Stmt → Eval String
  | 0, _, _ => tooDeep
  | fuel + 1, scope, s => do
      match s with
      | .text s => return s
      | .print e => Eval.printed (← evalExpr fuel scope e)
      | .loop target items test isRecursive body otherwise =>
          let v ← evalExpr fuel scope items
          let isExtended := isRecursive || stmtsMention "loop" body
          runLoop fuel ⟨target, test, body, otherwise, scope⟩ isExtended isRecursive v 0
      | .branch cases otherwise => runCases fuel scope cases otherwise
      | .assign target e =>
          checkTarget scope target
          bindTarget scope target (← evalExpr fuel scope e)
          return ""
      | .assignBlock target filter body =>
          let inner ← Eval.openScope scope
          let v ← Eval.made (← runBody fuel inner body)
          let v ← match filter with
            | some e => evalChain fuel inner v e
            | none => pure v
          let v ← if (← get).escapes then do Eval.made (← Eval.text v) else pure v
          bindTarget scope target v
          return ""
      | .scope bindings body =>
          let values ← bindings.mapM fun b => evalExpr fuel scope b.2
          let inner ← Eval.openScope scope
          for (b, v) in bindings.zip values do
            bindTarget inner b.1 v
          runBody fuel inner body
      | .escaping e body =>
          let inner ← Eval.openScope scope
          let before := (← get).escapes
          let escapes ← (← evalExpr fuel inner e).isTrue
          modify fun m => { m with escapes }
          let text ← runBody fuel inner body
          modify fun m => { m with escapes := before }
          return text
      | .block name isScoped isRequired _ =>
          if isRequired then
            Eval.fail .notFound ("Required block " ++ Text.quotedString name ++ " not found")
          else runBlock fuel (if isScoped then scope else 0) name
      | .extend e => noTemplate (← evalExpr fuel scope e)
      | .load e => noTemplate (← evalExpr fuel scope e)
      | .insert e ignoresMissing =>
          let v ← evalExpr fuel scope e
          if !ignoresMissing then noTemplateAmong v
          else
            match v with
            | .text .. => return ""
            | v =>
                if ← v.isTrue then
                  let _ ← Eval.items v
                return ""
      | .define name params body =>
          Eval.bind scope name
            (← Eval.create (.procedure (Macro.ofDefinition (some name) params body scope)))
          return ""
      | .call params call body =>
          let caller ←
            Eval.create (.procedure (Macro.ofDefinition none params body scope))
          match call with
          | .call f args named rest restNamed =>
              Eval.text (← evalCall fuel scope f args named rest restNamed [("caller", caller)])
          | e => Eval.text (← evalExpr fuel scope e)
      | .filterBlock filter body =>
          let inner ← Eval.openScope scope
          let v ← Eval.made (← runBody fuel inner body)
          Eval.text (← evalChain fuel inner v filter)

end

end EntryTemplates.Render
