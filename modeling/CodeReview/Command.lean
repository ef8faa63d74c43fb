/-
Commands: other programs that are run, each with its arguments, what it is given to read and how long
it may take. A shell knows what comes of a command and keeps those that were given to it.
-/
import CodeReview.Act
import CodeReview.Value

namespace CodeReview

structure Command where
  arguments : List Value
  input : Option String
  timeout : Value
  deriving Repr

/-- What comes of a command. -/
inductive Reply where
  /-- It ran, and left a status and what it wrote. -/
  | exited (status : Int) (output errors : Option String)
  /-- There is no such program. -/
  | missing
  | timedOut
  /-- The program may not be run. -/
  | denied
  | failed
  deriving DecidableEq, Repr

/-- A place where commands are run. -/
structure Shell where
  reply : Command → Reply
  /-- The commands so far, the first of them first. -/
  given : List Command

namespace Shell

/-- A shell without any program. -/
def bare : Shell := ⟨fun _ => .missing, []⟩

def run (command : Command) : Act Shell Reply := do
  let shell ← Act.get
  Act.modify fun shell => { shell with given := shell.given ++ [command] }
  return shell.reply command

end Shell

end CodeReview
