/-
The wizard: asks for the settings that matter most, makes a gist if the history is to be kept in one,
and writes the answers into the configuration. Other settings there are kept.
-/
import CodeReview.Session.Dialogue
import CodeReview.Session.Project
import CodeReview.Yaml.Writer

namespace CodeReview.Wizard

/-! ## Questions -/

/-- The backends that can be chosen, the standard one first. -/
def backends : List String := ["json", "gist", "none"]

/-- Which categories of rules are wanted. -/
def askRules : List Category → Act Session (List (Value × Value))
  | [] => return []
  | category :: rest => do
    let wanted ← Dialogue.askConsent ("Enable " ++ category.name ++ " rules?")
    return (.string category.name, .bool wanted) :: (← askRules rest)

/-- What can be chosen. -/
def explainBackends : Act Session Unit := do
  Act.say "\nReview history store:"
  Act.say "  [bold]json[/bold]  — local JSON file in .scanlens/ (default)"
  Act.say
    "  [bold]gist[/bold]  — shared GitHub Gist, zero infrastructure (recommended for teams)"
  Act.say "  [bold]none[/bold]  — no history"

/-! ## The gist -/

/-- The command that makes a gist with the history's file. -/
def creation (description : String) : Command :=
  ⟨["gh", "gist", "create", "--public=false", "--desc", description, Gist.fileName].map .string,
    none, .int 15⟩

/-- The id of a gist: the last part of its address. -/
def idOf (address : String) : String :=
  String.ofList (Text.afterLast '/' (Text.dropTrailing '/' address.toList))

/-- The id of a new gist; `none` where it cannot be made. -/
def createGist (description : String) : Act Shell (Option String) := do
  match ← Shell.run (creation description) with
  | .missing | .timedOut => return none
  | .denied => Act.fail .permissionDenied
  | .failed => Act.fail .commandFailed
  | .exited status output errors =>
    if status = 0 then return some (idOf (← Act.ofExcept (Token.trimmed output)))
    let _ ← Act.ofExcept (Token.trimmed errors)
    Act.note .gistNotCreated
    return none

/-! ## Answers -/

/-- Asks where the history's file is to be; the standard place is no setting. -/
def askFile : Act Session (List (Value × Value)) := do
  let path ← Dialogue.askText "History file path" Config.standardStorePath
  Act.say (Shown.colored "green" ("JSON store configured at " ++ path))
  return if path = Config.standardStorePath then []
    else [(.string "store_path", .string path)]

/-- Makes a gist for the history. -/
def makeGist (configPath : String) (description : Option String) :
    Act Session (List (Value × Value)) := do
  Act.say ("\n[yellow]Note:[/yellow] Gist store requires a token with [bold]gist[/bold] " ++
    "scope (GITHUB_TOKEN or a `gh auth login` session).")
  let directory := (← Act.get).disk.workingDirectory.getLastD ""
  let given := description.getD ""
  let id ← Session.inShell (createGist
    (if given = "" then "scanlens review history for " ++ directory else given))
  match id.filter (· ≠ "") with
  | some id =>
    Act.say (Shown.colored "green" ("Created team Gist: " ++ id))
    return [(.string "gist_id", .string id)]
  | none =>
    Act.say (Shown.colored "yellow"
      ("Gist creation failed — add gist_id manually to " ++ configPath))
    return []

/-- The settings that are asked for. -/
def askSettings (configPath : String) (description : Option String) :
    Act Session (List (Value × Value)) := do
  let rules ← askRules Category.all
  let size ← Dialogue.askInteger "Maximum file size to analyse (KB)" 500 1
  explainBackends
  let backend ← Dialogue.askChoice "Store backend" backends "json"
  let more ←
    if backend = "json" then askFile
    else if backend = "gist" then makeGist configPath description
    else pure []
  return [(.string "rules", .map rules), (.string "max_file_size", .int size),
    (.string "store", .string backend)] ++ more

/-! ## The configuration -/

/-- The settings that are in a file; a text that is no mapping holds none. -/
def settingsIn (disk : Disk) (path : Path) : Except Fault Config := do
  if ← disk.has path.text then
    match ← Yaml.read (← disk.readText path.text) with
    | .map entries => return ⟨entries⟩
    | _ => return ⟨[]⟩
  else return ⟨[]⟩

/-- Writes settings over those in a file. -/
def writeSettings (configPath : String) (settings : List (Value × Value)) : Act Disk Unit := do
  let path := Path.ofString configPath
  let existing ← Act.ofExcept (settingsIn (← Act.get) path)
  Disk.writeText path.text (Yaml.write (existing.overlay settings).entries)

/-- Sets the project up. -/
def run (configPath : String) (description : Option String) : Act Session Unit := do
  Act.say "\n[bold cyan]scanlens init[/bold cyan] — setup wizard\n"
  let settings ← askSettings configPath description
  Session.onDisk (writeSettings configPath settings)
  Act.say (Shown.colored "green" ("Wrote " ++ configPath))
  Act.say "\n[bold green]Setup complete![/bold green]"
  Act.say "Scan your project with: [bold]scanlens scan[/bold]"

end CodeReview.Wizard
