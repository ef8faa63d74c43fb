/-
Backends: where the history of a session is kept. The configuration names one; a gist needs an id and a
token, and without them nothing is kept.
-/
import CodeReview.Config.Basic
import CodeReview.Session.Basic

namespace CodeReview

/-! ## The token -/

namespace Token

/-- The command that asks for a token. -/
def question : Command := ⟨["gh", "auth", "token"].map .string, none, .int 5⟩

/-- What a command wrote, without the blanks at its ends. -/
def trimmed (output : Option String) : Except Fault String :=
  match output with
  | some output => .ok (String.ofList (Text.strip output.toList))
  | none => .error .noOperation

/-- The token of the session in which the other program is logged in. -/
def ofLogin : Act Shell (Option String) := do
  match ← Shell.run question with
  | .missing | .timedOut =>
    Act.note .tokenLookupUnavailable
    return none
  | .denied => Act.fail .permissionDenied
  | .failed => Act.fail .commandFailed
  | .exited status output _ =>
    if status ≠ 0 then return none
    let token ← Act.ofExcept (trimmed output)
    return if token.isEmpty then none else some token

/-- The token that the environment holds, else that of the login. -/
def resolve (environment : Option String) : Act Shell (Option String) := do
  match environment with
  | some token => if token.isEmpty then ofLogin else return some token
  | none =>
    let token ← ofLogin
    if token.isSome then Act.note .tokenFromSession
    return token

end Token

/-! ## The backend -/

inductive Backend where
  /-- Nothing is kept. -/
  | nothing
  | file (path : Path)
  | gist (id : Value)
  deriving Repr

namespace Backend

/-- The path of the history's file. -/
def storePath (config : Config) : Except Fault Path :=
  match (config.get? "store_path").getD (.string Config.standardStorePath) with
  | .string path => .ok (Path.ofString path)
  | _ => .error .wrongType

/-- The backend that a configuration names. -/
def ofConfig (config : Config) : Act Session Backend := do
  match (config.get? "store").getD (.string "json") with
  | .string "gist" =>
    let id := config.get "gist_id"
    let token := config.get "github_token"
    if id.isEmpty || token.isEmpty then
      Act.say (Shown.colored "yellow"
        "GistStore requires gist_id and a GitHub token. Falling back to no store.")
      return .nothing
    Session.onGists (Gist.openWith token)
    return .gist id
  | .string "json" => return .file (← Act.ofExcept (storePath config))
  | _ => return .nothing

/-- The store behind a backend. -/
def store : Backend → Store Session
  | .nothing => .nothing
  | .file path => (JsonFile.store path).within (·.disk) fun disk session => { session with disk }
  | .gist id => (Gist.store id).within (·.gists) fun gists session => { session with gists }

/-- A history is kept. -/
def isKept : Backend → Bool
  | .nothing => false
  | _ => true

end Backend

end CodeReview
