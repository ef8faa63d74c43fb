/-
Projects: what a session works on once its configuration has been read.
-/
import CodeReview.Config.Loading
import CodeReview.History.Basic
import CodeReview.Session.Backend

namespace CodeReview

structure Project where
  /-- Where the configuration was read. -/
  configPath : String
  config : Config
  backend : Backend

namespace Project

/-- Reads a configuration. For a gist, a token is looked for where the environment has none. -/
def load (configPath : String) : Act Session Project := do
  let session ← Act.get
  let config ← Config.load session.disk configPath [] session.environment.token
  let token ← match config.get "store" with
    | .string "gist" => Session.inShell (Token.resolve session.environment.token)
    | _ => pure none
  let config := match token with
    | some token => config.set Config.tokenKey (.string token)
    | none => config
  return ⟨configPath, config, ← Backend.ofConfig config⟩

/-- The history at a moment. -/
def history (project : Project) (now : Moment) : History Session :=
  ⟨project.backend.store, project.config.get "retention_days", now⟩

/-- Leaves the store. -/
def close (project : Project) : Act Session Unit := project.backend.store.close

end Project

end CodeReview
