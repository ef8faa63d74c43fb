/-
Configurations: settings under keys, in order. Settings that nobody knows are kept, so a
configuration is a map of any values; the standard one holds a value for every setting that the
program looks at.
-/
import CodeReview.Value

namespace CodeReview

structure Config where
  entries : List (Value × Value)
  deriving Repr

namespace Config

/-- The setting under a key. -/
def get? (c : Config) (key : String) : Option Value := Value.lookup (.string key) c.entries

/-- The setting under a key, null where there is none. -/
def get (c : Config) (key : String) : Value := (c.get? key).getD .null

/-- The configuration with a setting changed or added. -/
def set (c : Config) (key : String) (value : Value) : Config :=
  ⟨Value.insert (.string key) value c.entries⟩

/-- The configuration with the settings of another laid over it. -/
def overlay (c : Config) (entries : List (Value × Value)) : Config :=
  ⟨entries.foldl (fun all (key, value) => Value.insert key value all) c.entries⟩

def texts (items : List String) : Value := .list (items.map .string)

/-- Paths that are left out unless a configuration says otherwise. -/
def standardExclusions : List String :=
  ["**/node_modules/**", "**/dist/**", "**/build/**", "**/.git/**"]

/-- Where the history is kept unless a configuration says otherwise. -/
def standardStorePath : String := ".scanlens/review-history.json"

/-- The name of the configuration file unless told otherwise. -/
def standardPath : String := ".scanlens.yml"

/-- The categories with whether they are enabled. -/
def standardRules : List (Value × Value) :=
  [(.string "security", .bool true), (.string "performance", .bool true),
    (.string "style", .bool true)]

def standardLinter : List (Value × Value) :=
  [(.string "enabled", .bool false), (.string "command", texts ["eslint"]),
    (.string "timeout", .int 30)]

/-- The configuration that holds where nothing else is said. -/
def standard : Config := ⟨[
  (.string "enabled", .bool true),
  (.string "rules", .map standardRules),
  (.string "custom_rules", .list []),
  (.string "exclude_patterns", texts standardExclusions),
  (.string "max_file_size", .int 500),
  (.string "auto_analyze_on_save", .bool true),
  (.string "retention_days", .int 30),
  (.string "store", .string "json"),
  (.string "store_path", .string standardStorePath),
  (.string "gist_id", .null),
  (.string "linter", .map standardLinter),
  (.string "root", .string ".")]⟩

/-! ## Any value as a configuration -/

/-- The settings of a map, taken as they are. -/
def ofMap : Value → Except Fault Config
  | .map entries => .ok ⟨entries⟩
  | _ => .error .noOperation

/-- The two elements of a value that yields two. -/
def pairOf (v : Value) : Except Fault (Value × Value) :=
  match v.elements? with
  | none => .error .wrongType
  | some [key, value] => if key.isKey then .ok (key, value) else .error .wrongType
  | some _ => .error (.invalid "dictionary update sequence element has the wrong length")

/-- The settings that a value holds: those of a map, or pairs of key and setting. -/
def ofValue (v : Value) : Except Fault Config :=
  match v with
  | .map entries => .ok ⟨entries⟩
  | v =>
    match v.elements? with
    | none => .error .wrongType
    | some items => return (⟨[]⟩ : Config).overlay (← items.mapM pairOf)

end Config

end CodeReview
