/-
Validation of configurations. Every setting that the program looks at gets its standard value, with a
notice, unless it has a value that can be used; all other settings are kept as they are.
-/
import CodeReview.Config.Basic
import CodeReview.Notice
import CodeReview.Text.Blank

namespace CodeReview.Config

/-- A configuration on its way through validation, with the notices so far. -/
abbrev Checked := Config × List Notice

def isBool : Value → Bool
  | .bool _ => true
  | _ => false

/-- A number that is no truth value and is not zero or less. -/
def isPositive : Value → Bool
  | .int i => 0 < i
  | .float x => !x.le (.finite 0)
  | _ => false

def isString : Value → Bool
  | .string _ => true
  | _ => false

def isTextList : Value → Bool
  | .list items => items.all isString
  | _ => false

/-- A number that is no truth value. -/
def isNumber : Value → Bool
  | .int _ | .float _ => true
  | _ => false

/-- The kinds of history stores. -/
def storeKinds : List String := ["json", "gist", "none", "noop"]

def isStoreKind : Value → Bool
  | .string s => storeKinds.contains s
  | _ => false

def isFilled : Value → Bool
  | .string s => !s.isEmpty
  | _ => false

/-- Gives a setting its standard value unless it passes the test. -/
def repair (key : String) (usable : Value → Bool) (c : Checked) : Checked :=
  if usable (c.1.get key) then c
  else (c.1.set key (standard.get key), c.2 ++ [.invalidSetting key])

/-- The categories with those that are switched on or off in `given`. -/
def mergeRules (given : List (Value × Value)) : List (Value × Value) × List Notice :=
  given.foldl (fun (rules, notices) (category, enabled) =>
    if (Value.lookup category rules).isSome && isBool enabled then
      (Value.insert category enabled rules, notices)
    else (rules, notices ++ [.malformedRule])) (standardRules, [])

def checkRules (c : Checked) : Checked :=
  let (rules, notices) := match c.1.get "rules" with
    | .map given => mergeRules given
    | .null => (standardRules, [])
    | _ => (standardRules, [.malformedRules])
  (c.1.set "rules" (.map rules), c.2 ++ notices)

/-- The command that a setting gives: the words of a text, or a list of texts that is not empty. -/
def commandOf? : Value → Option Value
  | .string s => some (texts ((Text.words s.toList).map String.ofList))
  | .list items =>
    if !items.isEmpty && items.all isString then some (.list items) else none
  | _ => none

/-- The standard linter settings with the usable ones of `given`. -/
def mergeLinter (given : List (Value × Value)) : List (Value × Value) :=
  let setting (key : String) : Value := (Value.lookup (.string key) given).getD .null
  let l := standardLinter
  let l := if isBool (setting "enabled") then
    Value.insert (.string "enabled") (setting "enabled") l else l
  let l := match commandOf? (setting "command") with
    | some command => Value.insert (.string "command") command l
    | none => l
  if isNumber (setting "timeout") then
    Value.insert (.string "timeout") (setting "timeout") l else l

def checkLinter (c : Checked) : Checked :=
  let (linter, notices) := match c.1.get "linter" with
    | .map given => (mergeLinter given, [])
    | .null => (standardLinter, [])
    | _ => (standardLinter, [Notice.malformedLinter])
  (c.1.set "linter" (.map linter), c.2 ++ notices)

/-- The configuration with every setting that the program looks at made usable, and what was wrong
with it. -/
def validate (c : Config) : Config × List Notice :=
  let c := repair "enabled" isBool (c, [])
  let c := repair "auto_analyze_on_save" isBool c
  let c := repair "max_file_size" isPositive c
  let c := repair "retention_days" isPositive c
  let c := repair "custom_rules" isTextList c
  let c := repair "exclude_patterns" isTextList c
  let c := checkRules c
  let c := checkLinter c
  let c := repair "store" isStoreKind c
  let c := repair "store_path" isFilled c
  repair "root" isFilled c

end CodeReview.Config
