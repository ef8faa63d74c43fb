/-
The program: what a command line asks for, and the answer to it. The command is looked up before the
configuration is read, and the rest of the line after that.
-/
import CodeReview.CommandLine.Grammar
import CodeReview.Session.Archive
import CodeReview.Session.Checkup
import CodeReview.Session.Wizard

namespace CodeReview

/-- What the program can be asked for. -/
inductive Subcommand where
  | review
  | scan
  | history
  | timeline
  | exportHistory
  | setUp
  deriving DecidableEq, Repr

namespace Subcommand

def name : Subcommand → String
  | .review => "review"
  | .scan => "scan"
  | .history => "history"
  | .timeline => "timeline"
  | .exportHistory => "export"
  | .setUp => "init"

def all : List Subcommand := [.review, .scan, .history, .timeline, .exportHistory, .setUp]

def ofName? (name : String) : Option Subcommand := all.find? (·.name == name)

/-- The option that every command has. -/
def helpOption : OptionForm := { names := ["--help"] }

def grammar : Subcommand → Grammar
  | .review => ⟨[{ names := ["--no-record"] }, { names := ["--on-save"] }, { names := ["--fix"] },
      helpOption], true⟩
  | .scan => ⟨[{ names := ["--detailed"] }, helpOption], true⟩
  | .history => ⟨[{ names := ["--limit"], takesValue := true }, { names := ["--clear"] },
      helpOption], true⟩
  | .timeline => ⟨[helpOption], true⟩
  | .exportHistory => ⟨[{ names := ["--output", "-o"], takesValue := true }, helpOption], true⟩
  | .setUp => ⟨[{ names := ["--description"], takesValue := true }, helpOption], true⟩

/-- The arguments as they are shown in a line about the usage. -/
def argumentNames : Subcommand → String
  | .review => " FILE"
  | .scan => " [PATH]"
  | .exportHistory => " FORMAT"
  | _ => ""

def usage (command : Subcommand) : String :=
  "Usage: scanlens " ++ command.name ++ " [OPTIONS]" ++ command.argumentNames ++ "\n"

end Subcommand

namespace Program

/-! ## Arguments -/

def readGiven (grammar : Grammar) (arguments : List String) : Act Session Given :=
  Act.ofExcept ((grammar.read arguments).mapError .usage)

/-- No more arguments than those that were looked at. -/
def checkExtra (count : Nat) (arguments : List String) : Act Session Unit :=
  if arguments.length ≤ count then return
  else Session.refuse (.extraArguments (arguments.drop count))

/-- Refuses a path; where nothing lies at a path it is refused too. -/
def pathProblem (kind path problem : String) : String :=
  kind ++ " " ++ Text.quote path ++ " " ++ problem

/-- What lies at a path that was given as an argument. -/
def entryAt (parameter kind path : String) : Act Session Entry := do
  match (← Act.get).disk.find path with
  | .ok entry => return entry
  | .error (.file _) =>
    Session.refuse (.badValue parameter (pathProblem kind path "does not exist."))
  | .error fault => Act.fail fault

/-- The path of a file. -/
def fileArgument (arguments : List String) : Act Session String := do
  match arguments with
  | [] => Session.refuse (.argumentMissing "FILE" [])
  | path :: _ =>
    match ← entryAt "FILE" "File" path with
    | .file _ => return path
    | .directory _ =>
      Session.refuse (.badValue "FILE" (pathProblem "File" path "is a directory."))

/-- The path of a directory; the working directory where none is given. -/
def directoryArgument (arguments : List String) : Act Session String := do
  let path := arguments.headD "."
  match ← entryAt "[PATH]" "Directory" path with
  | .directory _ => return path
  | .file _ =>
    Session.refuse (.badValue "[PATH]" (pathProblem "Directory" path "is a file."))

/-- The form in which the history is exported. -/
def formArgument (arguments : List String) : Act Session Archive.Form := do
  let names := Archive.Form.all.map Archive.Form.name
  match arguments with
  | [] => Session.refuse (.argumentMissing "FORMAT" names)
  | name :: _ =>
    match Archive.Form.ofName? name with
    | some form => return form
    | none => Session.refuse (.badValue "FORMAT" (Dialogue.choiceProblem names name))

/-- How many reviews are shown unless told otherwise. -/
def standardLimit : Int := 20

def limitOption (given : Given) : Act Session Int :=
  match given.value? "--limit" with
  | none => return standardLimit
  | some text =>
    match Integer.ofText? text.toList with
    | some limit => return limit
    | none => Session.refuse (.badValue "--limit" (Text.quote text ++ " is not a valid integer."))

/-! ## Commands -/

/-- Does what a command asks for. -/
def perform (project : Project) (command : Subcommand) (arguments : List String) : Act Session Unit := do
  let given ← readGiven command.grammar arguments
  if given.has "--help" then Act.print command.usage
  else match command with
    | .review => do
      let file ← fileArgument given.arguments
      checkExtra 1 given.arguments
      Checkup.review project { file, records := !given.has "--no-record"
                               onSave := given.has "--on-save", fixes := given.has "--fix" }
    | .scan => do
      let root ← directoryArgument given.arguments
      checkExtra 1 given.arguments
      Checkup.scan project root (given.has "--detailed")
    | .history => do
      let limit ← limitOption given
      checkExtra 0 given.arguments
      Archive.browse project limit (given.has "--clear")
    | .timeline => do
      checkExtra 0 given.arguments
      Archive.timeline project
    | .exportHistory => do
      let form ← formArgument given.arguments
      checkExtra 1 given.arguments
      Archive.deliver project form (given.value? "--output")
    | .setUp => do
      checkExtra 0 given.arguments
      Wizard.run project.configPath (given.value? "--description")

/-! ## The whole line -/

/-- The options before the command. -/
def grammar : Grammar := ⟨[
  { names := ["--version"] },
  { names := ["--config"], takesValue := true },
  { names := ["--verbose", "-v"] },
  Subcommand.helpOption], false⟩

def version : String := "0.1.0"

/-- The path of the configuration: the one that is given, else that of the environment. -/
def configPath (given : Given) (environment : Environment) : String :=
  (given.value? "--config").getD
    ((environment.configPath.filter (· ≠ "")).getD Config.standardPath)

/-- Answers a question about the program itself, if the options ask one; the first counts. -/
def answerAtOnce (given : Given) : Act Session Bool := do
  match given.options.find? fun (name, _) => name == "--version" || name == "--help" with
  | some ("--version", _) =>
    Act.print ("scanlens, version " ++ version ++ "\n")
    return true
  | some _ =>
    Act.print (UsageFault.noArguments.message ++ "\n")
    return true
  | none => return false

/-- A name that is no command. One that looks like an option is read as one first. -/
def refuseName (name : String) (rest : List String) : Act Session Unit := do
  if Grammar.isOption name then
    if ← answerAtOnce (← readGiven grammar (name :: rest)) then return
  Session.refuse (.unknownCommand name (Text.similarTo name (Subcommand.all.map Subcommand.name)))

/-- Performs a command in a project and leaves its store, whatever comes of it. -/
def performIn (configPath : String) (command : Subcommand) (arguments : List String) :
    Act Session Unit := do
  let project ← Project.load configPath
  let result ← Act.attempt (perform project command arguments)
  project.close
  Act.ofExcept result

/-- Answers a command line. -/
def run (arguments : List String) : Act Session Unit := do
  if arguments.isEmpty then Session.refuse .noArguments
  let given ← readGiven grammar arguments
  if ← answerAtOnce given then return
  match given.arguments with
  | [] => Session.refuse .noCommand
  | name :: rest =>
    match Subcommand.ofName? name with
    | some command => performIn (configPath given (← Act.get).environment) command rest
    | none => refuseName name rest

end Program

end CodeReview
