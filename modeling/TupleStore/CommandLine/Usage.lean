import TupleStore.Text.Cut

/-!
# Arguments of a command line

`Usage.read` reads the arguments of one command: options, which may take a value,
and positional arguments.  An option without its value, a value of the wrong kind
and a repeated option are noticed when the next argument that is understood is
read, or at the end.  Variables of the environment stand in for options which are
not given.
-/

namespace TupleStore.CommandLine

inductive Misuse where
  | missingArgument
  | unknownArgument
  | unknownCommand
  /-- A value is not a number of the right kind. -/
  | invalidNumber
  /-- A value is missing or neither true nor false. -/
  | invalidValue
  | repeatedOption
  /-- A value is given to an option which takes none. -/
  | unneededValue
  | missingCommand
  /-- Nothing is given where a command is needed. -/
  | nothingGiven
  | helpWanted
  deriving DecidableEq, Repr

inductive Parameter where
  | nothing
  | text
  /-- Texts between commas; the option may be repeated. -/
  | texts
  /-- A number below `2 ^ 64`. -/
  | number
  | truth
  deriving DecidableEq, Repr

structure Flag where
  name : String
  short : Option Char := none
  parameter : Parameter := .text
  /-- The variable of the environment which stands in for the option. -/
  environment : Option String := none
  deriving DecidableEq, Repr

structure Usage where
  flags : List Flag := []
  /-- The number of positional arguments which are required. -/
  required : Nat := 0
  /-- Whether more positional arguments may follow. -/
  takesMore : Bool := false
  /-- The names of the commands, one of which must follow. -/
  commands : List String := []
  deriving DecidableEq, Repr

/-- Whether the argument names a command; where there are commands, `help` is one. -/
def Usage.isCommand (usage : Usage) (argument : String) : Bool :=
  usage.commands.contains argument || (!usage.commands.isEmpty && argument == "help")

structure Given where
  values : List (String × List String) := []
  arguments : List String := []
  deriving DecidableEq, Repr

def readNumber? (value : String) : Option Nat := Text.unsigned? 0x10000000000000000 value.toList

namespace Given

def get? (given : Given) (name : String) : Option (List String) :=
  (given.values.find? fun entry => entry.1 == name).map Prod.snd

def text? (given : Given) (name : String) : Option String := do (← given.get? name).head?

def number? (given : Given) (name : String) : Option Nat := do
  readNumber? (← given.text? name)

def truth? (given : Given) (name : String) : Option Bool := do
  return (← given.text? name) == "true"

def isGiven (given : Given) (name : String) : Bool := (given.get? name).isSome

def set (given : Given) (name : String) (values : List String) : Given :=
  { given with
    values := (name, values) :: given.values.filter fun entry => entry.1 != name }

end Given

/-! ## Values -/

def checkValue (parameter : Parameter) (value : String) : Except Misuse Unit :=
  match parameter with
  | .nothing | .text | .texts => .ok ()
  | .number => if (readNumber? value).isSome then .ok () else .error .invalidNumber
  | .truth => if value = "true" ∨ value = "false" then .ok () else .error .invalidValue

def splitValue (value : String) : List String :=
  (Text.splitAll ',' value.toList).map String.ofList

def giveValue (given : Given) (flag : Flag) (value : String) : Except Misuse Given :=
  if flag.parameter = .texts then
    .ok (given.set flag.name ((given.get? flag.name).getD [] ++ splitValue value))
  else if given.isGiven flag.name then .error .repeatedOption
  else do
    checkValue flag.parameter value
    return given.set flag.name [value]

/-! ## Reading -/

structure Progress where
  given : Given := {}
  /-- The last option, which is not added yet, and its value, which may still follow. -/
  pending : Option (Flag × Option String) := none
  /-- Whether all further arguments are positional. -/
  positionalOnly : Bool := false
  deriving DecidableEq, Repr

namespace Progress

def settle (progress : Progress) : Except Misuse Progress :=
  match progress.pending with
  | none => .ok progress
  | some (_, none) => .error .invalidValue
  | some (flag, some value) => do
      return { progress with given := ← giveValue progress.given flag value, pending := none }

def awaitsValue (progress : Progress) : Bool :=
  match progress.pending with
  | some (_, none) => true
  | _ => false

def giveBare (progress : Progress) (flag : Flag) : Except Misuse Progress := do
  let progress ← progress.settle
  if progress.given.isGiven flag.name then throw .repeatedOption
  return { progress with given := progress.given.set flag.name ["true"] }

/-- Adds an option whose value, if it is not attached, is the next argument. -/
def giveFlag (progress : Progress) (flag : Flag) (attached : Option String) :
    Except Misuse Progress := do
  let progress ← progress.settle
  match attached with
  | some value => return { progress with given := ← giveValue progress.given flag value }
  | none => return { progress with pending := some (flag, none) }

def givePositional (progress : Progress) (usage : Usage) (argument : String) :
    Except Misuse Progress := do
  if progress.given.arguments.length < usage.required || usage.takesMore then
    let progress ← progress.settle
    return { progress with
      given := { progress.given with arguments := progress.given.arguments ++ [argument] } }
  else if usage.commands.isEmpty || (progress.positionalOnly && usage.isCommand argument) then
    throw .unknownArgument
  else throw .unknownCommand

/-- Reads `--name` or `--name=value`, without the hyphens. -/
def readLong (progress : Progress) (usage : Usage) (argument : List Char) :
    Except Misuse Progress := do
  let (name, attached) := match Text.splitOnce? '=' argument with
    | some (name, value) => (String.ofList name, some (String.ofList value))
    | none => (String.ofList argument, none)
  if name = "help" then
    if attached.isSome then throw .unneededValue
    let _ ← progress.settle
    throw .helpWanted
  match usage.flags.find? fun flag => flag.name == name with
  | none => throw .unknownArgument
  | some flag =>
      if flag.parameter ≠ .nothing then progress.giveFlag flag attached
      else if attached.isSome then throw .unneededValue
      else progress.giveBare flag

/-- Reads `-x`, `-xvalue` or `-x=value`, without the hyphen. -/
def readShort (progress : Progress) (usage : Usage) (letter : Char) (rest : List Char) :
    Except Misuse Progress := do
  if letter = 'h' then
    let _ ← progress.settle
    throw .helpWanted
  match usage.flags.find? fun flag => flag.short == some letter with
  | none => throw .unknownArgument
  | some flag =>
      progress.giveFlag flag (match rest with
        | [] => none
        | '=' :: value => some (String.ofList value)
        | value => some (String.ofList value))

def read (progress : Progress) (usage : Usage) (argument : String) :
    Except Misuse Progress :=
  if progress.positionalOnly then progress.givePositional usage argument
  else
    match argument.toList with
    | ['-', '-'] => .ok { progress with positionalOnly := true }
    | '-' :: '-' :: long => progress.readLong usage long
    | '-' :: letter :: rest => progress.readShort usage letter rest
    | _ =>
        match progress.pending with
        | some (flag, none) => .ok { progress with pending := some (flag, some argument) }
        | _ => progress.givePositional usage argument

end Progress

namespace Usage

abbrev Rest := Option (String × List String)

def read (usage : Usage) : Progress → List String → Except Misuse (Progress × Rest)
  | progress, [] => return (progress, none)
  | progress, argument :: arguments => do
      if !progress.positionalOnly && !progress.awaitsValue && usage.isCommand argument then
        return (progress, some (argument, arguments))
      else usage.read (← progress.read usage argument) arguments

/-- Takes options which are not given from the environment. -/
def addEnvironment (environment : List (String × String)) :
    Given → List Flag → Except Misuse Given
  | given, [] => .ok given
  | given, flag :: flags => do
      let value := if given.isGiven flag.name then none else
        flag.environment.bind fun name =>
          (environment.find? fun entry => entry.1 == name).map Prod.snd
      match value with
      | none => addEnvironment environment given flags
      | some value => addEnvironment environment (← giveValue given flag value) flags

/-- What is given when all arguments are read; `complete` when a command followed. -/
def finish (usage : Usage) (environment : List (String × String)) (progress : Progress)
    (complete : Bool) : Except Misuse Given := do
  let given ← addEnvironment environment (← progress.settle).given usage.flags
  if !usage.commands.isEmpty && !complete then
    throw (if given.values.isEmpty then .nothingGiven else .missingCommand)
  if given.arguments.length < usage.required then throw .missingArgument
  return given

end Usage

end TupleStore.CommandLine
