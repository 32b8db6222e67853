/-
**Arguments and the parameters they are for.**

Main definitions:

* `EntryTemplates.Render.Signature` — what a filter, a test or a method takes;
* `EntryTemplates.Render.Signature.bind` — the arguments in the order of the parameters, or the
  report on arguments that do not fit.
-/

import EntryTemplates.Render.Value

set_option relaxedAutoImplicit false
set_option autoImplicit false

namespace EntryTemplates.Render

/-- What a filter, a test or a method takes. -/
structure Signature where
  /-- The name in reports. -/
  label : String
  /-- The parameters; one that has a standard may be left out. -/
  params : List (String × Option Value)
  /-- The number of arguments that are always given and count in reports. -/
  given : Nat

namespace Signature

/-- The failure of arguments that do not fit. -/
def fail {α : Type} (message : String) : Except Failure α := .error (.mishap .wrongType message)

/-- Names in quotes, with `and` before the last one. -/
def nameList : List String → String
  | [] => ""
  | [a] => a
  | [a, b] => a ++ " and " ++ b
  | names => ", ".intercalate names.dropLast ++ ", and " ++ names.getLastD ""

/-- Gives a named argument to its parameter. -/
def giveNamed (s : Signature) (name : String) (v : Value) :
    List (String × Option Value) → Except Failure (List (String × Option Value))
  | [] => fail (s.label ++ "() got an unexpected keyword argument " ++ Text.quotedString name)
  | (n, old) :: rest =>
      if n = name then
        match old with
        | some _ =>
            fail (s.label ++ "() got multiple values for argument " ++ Text.quotedString name)
        | none => .ok ((n, some v) :: rest)
      else do return (n, old) :: (← giveNamed s name v rest)

/-- Gives named arguments to their parameters. -/
def giveAllNamed (s : Signature) :
    List (String × Value) → List (String × Option Value) →
      Except Failure (List (String × Option Value))
  | [], slots => .ok slots
  | (name, v) :: rest, slots => do giveAllNamed s rest (← s.giveNamed name v slots)

/-- Parameters with the first arguments given to them. -/
def givePlain : List (String × Option Value) → List Value → List (String × Option Value)
  | [], _ => []
  | (n, _) :: params, [] => (n, none) :: givePlain params []
  | (n, _) :: params, v :: vs => (n, some v) :: givePlain params vs

/-- The report on too many arguments. -/
def tooMany (s : Signature) (count : Nat) : String :=
  let all := s.given + s.params.length
  let optional := s.params.countP fun p => p.2.isSome
  let takes :=
    if optional = 0 then s!"{all} positional argument" ++ (if all = 1 then "" else "s")
    else s!"from {all - optional} to {all} positional arguments"
  let count := s.given + count
  s.label ++ "() takes " ++ takes ++ s!" but {count} " ++ (if count = 1 then "was" else "were")
    ++ " given"

/-- The report on missing arguments. -/
def missing (s : Signature) (names : List String) : String :=
  s!"{s.label}() missing {names.length} required positional argument"
    ++ (if names.length = 1 then "" else "s") ++ ": " ++ nameList (names.map Text.quotedString)

/-- The arguments in the order of the parameters; those that are missing and have no standard by
name. -/
def settle : List (String × Option Value) → List (String × Option Value) →
    List Value × List String
  | (_, some v) :: slots, _ :: params =>
      let (vs, names) := settle slots params
      (v :: vs, names)
  | (_, none) :: slots, (n, standard) :: params =>
      let (vs, names) := settle slots params
      match standard with
      | some v => (v :: vs, names)
      | none => (vs, n :: names)
  | _, _ => ([], [])

/-- **The arguments in the order of the parameters.** -/
def bind (s : Signature) (args : List Value) (named : List (String × Value)) :
    Except Failure (List Value) := do
  let slots ← s.giveAllNamed named (givePlain s.params args)
  if s.params.length < args.length then fail (s.tooMany args.length)
  else
    match settle slots s.params with
    | (vs, []) => return vs
    | (_, names) => fail (s.missing names)

end Signature

end EntryTemplates.Render
