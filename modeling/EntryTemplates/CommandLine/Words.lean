/-
**Options and operands on a command line.**

An option is a word with one or two dashes.  Its value is the next word, whatever that looks like;
a long option may have it after an equals sign, and short ones, which may stand together behind one
dash, right behind the letter.  After `--` all words are operands.

Main definitions:

* `EntryTemplates.CommandLine.Parameter` — the options that exist;
* `EntryTemplates.CommandLine.Misuse` — why words make no sense;
* `EntryTemplates.CommandLine.Given` — the options and operands that words give;
* `EntryTemplates.CommandLine.Given.read` — **reading words**.
-/

import EntryTemplates.Text.Search

set_option relaxedAutoImplicit false
set_option autoImplicit false

namespace EntryTemplates.CommandLine

/-- The options that exist. -/
inductive Parameter where
  | directory
  | verbose
  | version
  | framework
  | style
  | fileName
  | force
  | help
  deriving DecidableEq, Repr

namespace Parameter

/-- The long name, without dashes. -/
def longName : Parameter → String
  | .directory => "templates-dir"
  | .verbose => "verbose"
  | .version => "version"
  | .framework => "framework"
  | .style => "style"
  | .fileName => "file-name"
  | .force => "force"
  | .help => "help"

/-- The letter, if there is one. -/
def letter? : Parameter → Option Char
  | .directory => some 'd'
  | .version => some 'v'
  | .framework => some 'f'
  | .style => some 's'
  | .fileName => some 'o'
  | .verbose => none
  | .force => none
  | .help => none

/-- Whether the option has a value. -/
def hasValue : Parameter → Bool
  | .directory => true
  | .framework => true
  | .style => true
  | .fileName => true
  | .verbose => false
  | .version => false
  | .force => false
  | .help => false

end Parameter

/-- Why words make no sense. -/
inductive Misuse where
  | unknownOption (word : String)
  | missingValue (p : Parameter)
  | unexpectedValue (p : Parameter)
  | noCommand
  | unknownCommand (name : String)
  | extraOperand (word : String)
  | missingOperand (name : String)
  | unsuitable (name path : String)
  deriving DecidableEq, Repr

/-- The report on words that make no sense. -/
def Misuse.message : Misuse → String
  | .unknownOption word => "No such option: " ++ word
  | .missingValue p => "Option '--" ++ p.longName ++ "' requires an argument."
  | .unexpectedValue p => "Option '--" ++ p.longName ++ "' does not take a value."
  | .noCommand => "Missing command."
  | .unknownCommand name => "No such command '" ++ name ++ "'."
  | .extraOperand word => "Got unexpected extra argument (" ++ word ++ ")"
  | .missingOperand name => "Missing argument '" ++ name ++ "'."
  | .unsuitable name path => "Invalid value for '" ++ name ++ "': '" ++ path ++ "'"

/-- The options that words give, each with its value, and the operands. -/
structure Given where
  options : List (Parameter × String)
  operands : List String
  deriving DecidableEq, Repr

namespace Given

/-- An option in front. -/
def addOption (p : Parameter) (value : String) (g : Given) : Given :=
  { g with options := (p, value) :: g.options }

/-- Options in front. -/
def addOptions (options : List (Parameter × String)) (g : Given) : Given :=
  { g with options := options ++ g.options }

/-- An operand in front. -/
def addOperand (word : String) (g : Given) : Given := { g with operands := word :: g.operands }

/-- The value of an option; of several values the last one counts. -/
def value? (g : Given) (p : Parameter) : Option String := g.options.reverse.lookup p

/-- Whether an option is given. -/
def has (g : Given) (p : Parameter) : Bool := (g.value? p).isSome

/-- What one word gives: options, and one that waits for its value. -/
structure Step where
  options : List (Parameter × String)
  waiting : Option Parameter

/-- What letters behind one dash give. -/
def readLetters (known : List Parameter) : List Char → Except Misuse Step
  | [] => .ok ⟨[], none⟩
  | c :: rest =>
      match known.find? fun p => p.letter? = some c with
      | none => .error (.unknownOption ("-" ++ String.singleton c))
      | some p =>
          if p.hasValue then
            if rest.isEmpty then .ok ⟨[], some p⟩ else .ok ⟨[(p, String.ofList rest)], none⟩
          else
            (readLetters known rest).map fun step =>
              { step with options := (p, "") :: step.options }

/-- What a word behind two dashes gives. -/
def readLong (known : List Parameter) (word : List Char) : Except Misuse Step :=
  let name := word.takeWhile (· ≠ '=')
  match known.find? fun p => p.longName.toList = name, word.drop name.length with
  | none, _ => .error (.unknownOption ("--" ++ String.ofList name))
  | some p, [] => .ok (if p.hasValue then ⟨[], some p⟩ else ⟨[(p, "")], none⟩)
  | some p, _ :: value =>
      if p.hasValue then .ok ⟨[(p, String.ofList value)], none⟩ else .error (.unexpectedValue p)

/-- What an option's word gives; nothing if the word is an operand. -/
def readWord? (known : List Parameter) (word : String) : Option (Except Misuse Step) :=
  match word.toList with
  | '-' :: '-' :: rest => some (readLong known rest)
  | '-' :: c :: rest => some (readLetters known (c :: rest))
  | _ => none

/-- What words give when the option `waiting` waits for its value.  Unless options may follow
operands, everything from the first operand on is an operand. -/
def readFrom (known : List Parameter) (optionsFollow : Bool) :
    Option Parameter → List String → Except Misuse Given
  | none, [] => .ok ⟨[], []⟩
  | some p, [] => .error (.missingValue p)
  | some p, word :: rest => (readFrom known optionsFollow none rest).map (addOption p word)
  | none, word :: rest =>
      if word = "--" then .ok ⟨[], rest⟩
      else
        match readWord? known word with
        | some (.ok step) =>
            (readFrom known optionsFollow step.waiting rest).map (addOptions step.options)
        | some (.error m) => .error m
        | none =>
            if optionsFollow then (readFrom known optionsFollow none rest).map (addOperand word)
            else .ok ⟨[], word :: rest⟩

/-- **Reading words.** -/
def read (known : List Parameter) (optionsFollow : Bool) (words : List String) :
    Except Misuse Given :=
  readFrom known optionsFollow none words

end Given

end EntryTemplates.CommandLine
