/-
Sessions: the world that a call of the program works in. Acts on one part of that world are acts on the
session.
-/
import CodeReview.Command
import CodeReview.Disk
import CodeReview.Store.Gist

namespace CodeReview

/-- What the environment says: a token for the gist service and the path of the configuration. -/
structure Environment where
  token : Option String := none
  configPath : Option String := none
  deriving Repr

structure Session where
  disk : Disk
  shell : Shell := .bare
  gists : GistService
  now : Moment
  environment : Environment := {}
  /-- The lines that are still to be read. -/
  input : List (List Char) := []

namespace Session

variable {α : Type}

def onDisk (act : Act Disk α) : Act Session α :=
  act.within (·.disk) fun disk session => { session with disk }

def inShell (act : Act Shell α) : Act Session α :=
  act.within (·.shell) fun shell session => { session with shell }

def onGists (act : Act GistService α) : Act Session α :=
  act.within (·.gists) fun gists session => { session with gists }

/-- Fails with a fault of usage. -/
def refuse (fault : UsageFault) : Act Session α := Act.fail (.usage fault)

end Session

end CodeReview
