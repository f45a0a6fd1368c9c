import ProvisionWatch.Target
import ProvisionWatch.Text.Split

/-!
# Arguments of the command line

There are two commands.  `state` takes a namespace and a name as options;
`watch` takes a target, and the caller as an option.  An option can be given
once, with its value behind it or joined to it, and a value joined to it may
look like an option itself.  Two dashes alone end the options.
-/

namespace ProvisionWatch
namespace CommandLine

/-- What is to be done. -/
inductive Command where
  /-- Show the state of a deployment once. -/
  | state (target : Target)
  /-- Show the updates of the deployment that a text describes. -/
  | watch (raw caller : String)
deriving DecidableEq, Repr

/-- A command line that makes sense. -/
structure Invocation where
  command : Command
  /-- Spread the output over lines. -/
  pretty : Bool
deriving DecidableEq, Repr

/-- What a command line comes to. -/
inductive Reading where
  | invocation (i : Invocation)
  /-- Help is asked for. -/
  | help
  /-- The command line makes no sense. -/
  | invalid
deriving DecidableEq, Repr

/-- The caller that is meant unless another is given. -/
def standardCaller : String := "anonymous"

/-! ## Tokens -/

/-- One argument, by its look. -/
inductive Token where
  /-- Two dashes alone. -/
  | escape
  | long (name : String) (value : Option String)
  /-- A dash and letters. -/
  | short (letter : Char) (rest : String)
  | word (text : String)
deriving DecidableEq, Repr

/-- An argument by its look. -/
def Token.ofText (s : String) : Token :=
  match s.toList with
  | ['-', '-'] => .escape
  | '-' :: '-' :: cs =>
      match Text.cut '=' cs with
      | some (name, value) => .long (String.ofList name) (some (String.ofList value))
      | none => .long (String.ofList cs) none
  | '-' :: c :: cs => .short c (String.ofList cs)
  | _ => .word s

/-- The value that is joined to a letter, if there is one. -/
def joinedValue? (rest : String) : Option String :=
  match rest.toList with
  | [] => none
  | '=' :: cs => some (String.ofList cs)
  | _ => some rest

/-- Whether an argument can be the value of an option before it. -/
def isValue (s : String) : Bool :=
  match Token.ofText s with
  | .word _ => true
  | _ => false

/-! ## The options of a command -/

/-- What was given so far. -/
structure Given where
  pretty : Bool
  /-- Options with values, by name. -/
  options : List (String × String)
  words : List String
deriving DecidableEq, Repr

/-- Nothing was given. -/
def Given.none : Given :=
  { pretty := false, options := [], words := [] }

/-- What a command understands. -/
structure Usage where
  /-- Options that take a value. -/
  options : List String
  /-- Letters that stand for options. -/
  letters : List (Char × String)
  /-- How many words there can be. -/
  words : Nat

/-- How reading the arguments of a command ends. -/
inductive Ending where
  | given (g : Given)
  | help
  | invalid
deriving DecidableEq, Repr

/-- Give an option its value; each can be given once. -/
def Given.withOption (g : Given) (name value : String) : Option Given :=
  if (g.options.lookup name).isSome then Option.none
  else some { g with options := (name, value) :: g.options }

/-- Add words, as many as there can be. -/
def Given.withWords (g : Given) (u : Usage) (words : List String) : Ending :=
  if g.words.length + words.length ≤ u.words then .given { g with words := g.words ++ words }
  else .invalid

/-- Read the arguments of a command. -/
def readArguments (u : Usage) (g : Given) : List String → Ending
  | [] => .given g
  | s :: rest =>
      match Token.ofText s with
      | .escape => g.withWords u rest
      | .word w =>
          if g.words.length < u.words then
            readArguments u { g with words := g.words ++ [w] } rest
          else .invalid
      | .long name value =>
          if u.options.contains name then
            match value with
            | some v =>
                match g.withOption name v with
                | some g => readArguments u g rest
                | Option.none => .invalid
            | Option.none => readValue name rest
          else if name = "pretty" ∧ value.isNone ∧ g.pretty = false then
            readArguments u { g with pretty := true } rest
          else if name = "help" ∧ value.isNone then .help
          else .invalid
      | .short letter joined =>
          if letter = 'h' then .help
          else
            match u.letters.lookup letter with
            | Option.none => .invalid
            | some name =>
                match joinedValue? joined with
                | some v =>
                    match g.withOption name v with
                    | some g => readArguments u g rest
                    | Option.none => .invalid
                | Option.none => readValue name rest
where
  /-- The value of an option is the argument behind it. -/
  readValue (name : String) : List String → Ending
    | [] => .invalid
    | v :: rest =>
        if isValue v then
          match g.withOption name v with
          | some g => readArguments u g rest
          | Option.none => .invalid
        else .invalid

/-! ## Commands -/

/-- What the state command understands. -/
def stateUsage : Usage :=
  { options := ["namespace", "name"], letters := [('n', "namespace")], words := 0 }

/-- What the watch command understands. -/
def watchUsage : Usage :=
  { options := ["caller"], letters := [], words := 1 }

/-- The state command, if it was given what it needs. -/
def Given.stateCommand? (g : Given) : Option Command := do
  let ns ← g.options.lookup "namespace"
  let name ← g.options.lookup "name"
  return .state { ns := ns, name := name }

/-- The watch command, if it was given what it needs. -/
def Given.watchCommand? (g : Given) : Option Command := do
  let raw ← g.words.head?
  return .watch raw ((g.options.lookup "caller").getD standardCaller)

/-- What the arguments of a command come to. -/
def Ending.reading (pretty : Bool) (command? : Given → Option Command) : Ending → Reading
  | .help => .help
  | .invalid => .invalid
  | .given g =>
      match command? g with
      | some command => .invocation { command := command, pretty := pretty || g.pretty }
      | Option.none => .invalid

/-- Read the arguments of the state command. -/
def readState (pretty : Bool) (args : List String) : Reading :=
  (readArguments stateUsage .none args).reading pretty Given.stateCommand?

/-- Read the arguments of the watch command. -/
def readWatch (pretty : Bool) (args : List String) : Reading :=
  (readArguments watchUsage .none args).reading pretty Given.watchCommand?

/-- What asking for help on something comes to. -/
def readHelp : List String → Reading
  | [] => .help
  | [topic] => if ["state", "watch", "help"].contains topic then .help else .invalid
  | _ => .invalid

/-- Read a command line. -/
def readFrom (pretty : Bool) : List String → Reading
  | [] => .invalid
  | s :: rest =>
      match Token.ofText s with
      | .escape => .invalid
      | .long name value =>
          if name = "pretty" ∧ value.isNone ∧ pretty = false then readFrom true rest
          else if name = "help" ∧ value.isNone then .help
          else .invalid
      | .short letter _ => if letter = 'h' then .help else .invalid
      | .word "state" => readState pretty rest
      | .word "watch" => readWatch pretty rest
      | .word "help" => readHelp rest
      | .word _ => .invalid

/-- Read a command line. -/
def read (args : List String) : Reading :=
  readFrom false args

end CommandLine
end ProvisionWatch
