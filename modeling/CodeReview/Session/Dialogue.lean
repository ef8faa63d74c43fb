/-
Dialogues: questions that are asked until an answer is accepted. An empty answer stands for the
standard one; where the answers end, the dialogue is given up.
-/
import CodeReview.Number.Integer
import CodeReview.Session.Basic
import CodeReview.Text.Case
import CodeReview.Text.Lines

namespace CodeReview

/-- What comes of a question: the answer, what was written, and the lines that were not read. -/
structure Dialogue (α : Type) where
  answer : Option α
  written : String
  rest : List (List Char)

namespace Dialogue

variable {α : Type}

/-- Asks until a line is accepted. A line that is not accepted is answered with a complaint. -/
def converse (question : String) (accept : List Char → Except String α) :
    List (List Char) → Dialogue α
  | [] => ⟨none, question, []⟩
  | line :: lines =>
    let written := question ++ String.ofList line ++ "\n"
    match accept line with
    | .ok answer => ⟨some answer, written, lines⟩
    | .error complaint =>
      let further := converse question accept lines
      { further with written := written ++ "Error: " ++ complaint ++ "\n" ++ further.written }

/-- Asks a question. -/
def ask (question : String) (accept : List Char → Except String α) : Act Session α := do
  let dialogue := converse question accept (← Act.get).input
  Act.modify fun session => { session with input := dialogue.rest }
  Act.print dialogue.written
  match dialogue.answer with
  | some answer => return answer
  | none => Session.refuse .aborted

/-- A yes or a no; an empty answer is a yes. -/
def acceptConsent (line : List Char) : Except String Bool :=
  let word := String.ofList (Text.strip (Text.asciiLowerText line))
  if word = "y" || word = "yes" || word = "" then .ok true
  else if word = "n" || word = "no" then .ok false
  else .error "invalid input"

/-- An integer that is at least `least`. -/
def acceptInteger (standard least : Int) (line : List Char) : Except String Int :=
  if line.isEmpty then .ok standard
  else match Integer.ofText? line with
    | none => .error (String.ofList (Text.quoted line) ++ " is not a valid integer range.")
    | some n =>
      if n < least then
        .error (toString n ++ " is not in the range x>=" ++ toString least ++ ".")
      else .ok n

/-- The complaint about a choice that is none. -/
def choiceProblem (choices : List String) (given : String) : String :=
  Text.quote given ++ " is not one of " ++ ", ".intercalate (choices.map Text.quote) ++ "."

/-- One of some choices. -/
def acceptChoice (choices : List String) (standard : String) (line : List Char) :
    Except String String :=
  let given := String.ofList line
  if given = "" then .ok standard
  else if choices.contains given then .ok given
  else .error (choiceProblem choices given)

/-- Any text. -/
def acceptText (standard : String) (line : List Char) : Except String String :=
  .ok (if line.isEmpty then standard else String.ofList line)

def askConsent (question : String) : Act Session Bool :=
  ask (question ++ " [Y/n]: ") acceptConsent

def askInteger (question : String) (standard least : Int) : Act Session Int :=
  ask (question ++ " [" ++ toString standard ++ "]: ") (acceptInteger standard least)

def askChoice (question : String) (choices : List String) (standard : String) :
    Act Session String :=
  ask (question ++ " (" ++ ", ".intercalate choices ++ ") [" ++ standard ++ "]: ")
    (acceptChoice choices standard)

def askText (question standard : String) : Act Session String :=
  ask (question ++ " [" ++ standard ++ "]: ") (acceptText standard)

end Dialogue

end CodeReview
