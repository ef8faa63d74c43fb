/-
Usage: what can be wrong with a call of the program, and what the caller is told about it.
-/
import CodeReview.Text.Quoted

namespace CodeReview

inductive UsageFault where
  | noArguments
  | noCommand
  | unknownCommand (name : String) (similar : List String)
  | unknownOption (name : String) (similar : List String)
  /-- An option that is given without the value it takes. -/
  | valueMissing (option : String)
  /-- An option that is given a value and takes none. -/
  | valueUnwanted (option : String)
  | argumentMissing (argument : String) (choices : List String)
  | badValue (parameter problem : String)
  | extraArguments (arguments : List String)
  /-- A question about the history where none is kept. -/
  | noStore
  /-- A failure that the caller is told about. -/
  | failed (message : String)
  /-- A dialogue whose answers ended. -/
  | aborted
  deriving DecidableEq, Repr

namespace UsageFault

/-- What a name that is not known may have been meant to be. -/
def suggestion (kind : String) (similar : List String) : String :=
  match similar with
  | [] => ""
  | [name] => " Did you mean " ++ Text.quote name ++ "?"
  | names => " (Possible " ++ kind ++ ": " ++ ", ".intercalate (names.map Text.quote) ++ ")"

/-- The choices one a line. -/
def choiceLines (choices : List String) : String :=
  if choices.isEmpty then ""
  else " Choose from:" ++ ",".intercalate (choices.map ("\n\t" ++ ·))

def message : UsageFault → String
  | .noArguments => "Usage: scanlens [OPTIONS] COMMAND [ARGS]..."
  | .noCommand => "Missing command."
  | .unknownCommand name similar =>
    "No such command " ++ Text.quote name ++ "." ++ suggestion "commands" similar
  | .unknownOption name similar =>
    "No such option " ++ Text.quote name ++ "." ++ suggestion "options" similar
  | .valueMissing option => "Option " ++ Text.quote option ++ " requires an argument."
  | .valueUnwanted option => "Option " ++ Text.quote option ++ " does not take a value."
  | .argumentMissing argument choices =>
    "Missing argument '" ++ argument ++ "'." ++ choiceLines choices
  | .badValue parameter problem => "Invalid value for '" ++ parameter ++ "': " ++ problem
  | .extraArguments arguments =>
    "Got unexpected extra argument" ++ (if arguments.length = 1 then "" else "s") ++ " (" ++
      " ".intercalate arguments ++ ")"
  | .noStore =>
    "No store configured. Set 'store: json' or 'store: gist' in .scanlens.yml, " ++
      "or run `scanlens init` to set one up."
  | .failed message => message
  | .aborted => ""

end UsageFault

end CodeReview
