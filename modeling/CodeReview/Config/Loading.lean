/-
Loading configurations: the standard one, with the settings of a file laid over it, then those given by
the caller, all of them validated. A file that cannot be read or is no mapping is a notice.
-/
import CodeReview.Config.Validation
import CodeReview.Disk
import CodeReview.Yaml.Reader

namespace CodeReview.Config

/-- Names that settings may have in files, with their own. -/
def aliases : List (String × String) := [
  ("customRules", "custom_rules"),
  ("excludePatterns", "exclude_patterns"),
  ("maxFileSize", "max_file_size"),
  ("autoAnalyzeOnSave", "auto_analyze_on_save"),
  ("retentionDays", "retention_days"),
  ("storePath", "store_path"),
  ("gistId", "gist_id")]

/-- A key with the setting's own name. -/
def ownName (key : Value) : Value :=
  match key with
  | .string s => match aliases.lookup s with
    | some name => .string name
    | none => key
  | _ => key

/-- A fault of the file or of the form of its text, as opposed to one of its bytes or values. -/
def isReadFault : Fault → Bool
  | .malformedYaml _ => true
  | fault => fault.isStorageFault

/-- The settings in a file. -/
def fileSettings {σ : Type} (disk : Disk) (name : String) : Act σ (List (Value × Value)) := do
  let path := (Path.ofString name).text
  if !(← Act.ofExcept (disk.has path)) then return []
  match disk.readText path >>= Yaml.read with
  | .error fault =>
    if isReadFault fault then
      Act.note (.unreadableConfig name)
      return []
    else Act.fail fault
  | .ok (.map entries) => return entries
  | .ok value =>
    if value.isEmpty then return []
    else
      Act.note (.configNotMapping name)
      return []

/-- The settings that a caller gives; null stands for none. -/
def givenSettings (settings : List (Value × Value)) : List (Value × Value) :=
  settings.filter fun (_, value) => match value with
    | .null => false
    | _ => true

/-- The key of the token that lets one into the gist service. -/
def tokenKey : String := "github_token"

/-- The configuration in the file `name`, with the settings that the caller gives and a token from the
environment. -/
def load {σ : Type} (disk : Disk) (name : String) (given : List (Value × Value))
    (token : Option String) : Act σ Config := do
  let inFile ← fileSettings disk name
  let merged := (standard.overlay (inFile.map fun (key, value) => (ownName key, value))).overlay
    (givenSettings given)
  let (config, notices) := validate merged
  Act.noteAll notices
  return config.set tokenKey (match token with
    | some token => .string token
    | none => .null)

end CodeReview.Config
