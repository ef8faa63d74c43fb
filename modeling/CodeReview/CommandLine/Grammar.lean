/-
The grammar of a command line: which options a command has and which of them take a value. Options are
read until two hyphens stand alone; what is no option is an argument.
-/
import CodeReview.Text.Find
import CodeReview.Text.Similar
import CodeReview.Usage

namespace CodeReview

/-- An option by its names, the long one first. -/
structure OptionForm where
  names : List String
  takesValue : Bool := false
  deriving Repr

namespace OptionForm

def name (o : OptionForm) : String := o.names.headD ""

end OptionForm

structure Grammar where
  options : List OptionForm
  /-- Options can follow arguments. -/
  interspersed : Bool := true
  deriving Repr

/-- What a command line gives: options with their values, in order, and arguments. -/
structure Given where
  options : List (String × Option String) := []
  arguments : List String := []
  deriving Repr

namespace Given

def withOptions (options : List (String × Option String)) (g : Given) : Given :=
  { g with options := options ++ g.options }

def withArgument (argument : String) (g : Given) : Given :=
  { g with arguments := argument :: g.arguments }

def has (g : Given) (option : String) : Bool := g.options.any (·.1 == option)

/-- The value that an option was given last. -/
def value? (g : Given) (option : String) : Option String :=
  (g.options.reverse.find? (·.1 == option)).bind (·.2)

end Given

namespace Grammar

/-- What an argument that is an option says: options, and the name of the last if it still lacks its
value. -/
structure Reading where
  options : List (String × Option String)
  lacking : Option String := none

def find? (g : Grammar) (name : String) : Option OptionForm :=
  g.options.find? (·.names.contains name)

def longNames (g : Grammar) : List String :=
  (g.options.flatMap (·.names)).filter (·.startsWith "--")

/-- Reads an option by its long name, which a value may follow after an equals sign. -/
def readLong (g : Grammar) (argument : List Char) : Except UsageFault Reading :=
  let (name, value) := Text.cutAtFirst '=' argument
  let name := String.ofList name
  let value := if argument.contains '=' then some (String.ofList value) else none
  match g.find? name with
  | none => .error (.unknownOption name (Text.similarTo name g.longNames))
  | some option =>
    match option.takesValue, value with
    | true, some value => .ok { options := [(option.name, some value)] }
    | true, none => .ok { options := [(option.name, none)], lacking := some name }
    | false, none => .ok { options := [(option.name, none)] }
    | false, some _ => .error (.valueUnwanted name)

/-- Reads options by their short names, one character each. What follows the name of one that takes a
value is the value. -/
def readShort (g : Grammar) : List Char → Except UsageFault Reading
  | [] => .ok { options := [] }
  | c :: rest => do
    let name := String.ofList ['-', c]
    match g.find? name with
    | none => throw (.unknownOption name [])
    | some option =>
      if option.takesValue then
        if rest.isEmpty then return { options := [(option.name, none)], lacking := some name }
        else return { options := [(option.name, some (String.ofList rest))] }
      else
        let reading ← readShort g rest
        return { reading with options := (option.name, none) :: reading.options }

def readOption (g : Grammar) (argument : List Char) : Except UsageFault Reading :=
  match argument with
  | '-' :: '-' :: _ => g.readLong argument
  | _ => g.readShort (argument.drop 1)

def isOption (argument : String) : Bool :=
  argument.startsWith "-" && argument != "-"

/-- Gives the last option the value that it lacks. -/
def Reading.supply (reading : Reading) (value : String) : List (String × Option String) :=
  match reading.options.reverse with
  | (name, _) :: before => (before.reverse) ++ [(name, some value)]
  | [] => []

/-- Reads a command line. -/
def read (g : Grammar) : List String → Except UsageFault Given
  | [] => .ok {}
  | argument :: rest =>
    if argument = "--" then .ok { arguments := rest }
    else if isOption argument then do
      let reading ← g.readOption argument.toList
      match reading.lacking, rest with
      | none, rest => return (← read g rest).withOptions reading.options
      | some _, value :: rest => return (← read g rest).withOptions (reading.supply value)
      | some name, [] => throw (.valueMissing name)
    else if g.interspersed then return (← read g rest).withArgument argument
    else .ok { arguments := argument :: rest }

end Grammar

end CodeReview
