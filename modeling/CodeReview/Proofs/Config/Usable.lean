/-
Validated configurations can be used. What a setting has to be is said here by the values themselves, and not
by the tests that the validation makes: truth values, numbers above zero, lists of texts, kinds of stores,
texts that are not empty. `validate_mends` says that a validated configuration has all of this, that a setting
which had it before is kept and any other is given its standard value, each switch of the rules and each
linter setting for itself, and that no other setting is touched.
-/
import CodeReview.Finding
import CodeReview.Proofs.Config.Validation

namespace CodeReview.Config

/-! ## What settings have to be -/

def IsFlag (v : Value) : Prop := ∃ b, v = .bool b

def IsNumber (v : Value) : Prop := (∃ i, v = .int i) ∨ ∃ x, v = .float x

/-- A number that is not zero or less. -/
def IsAboveZero (v : Value) : Prop := (∃ i : ℤ, v = .int i ∧ ¬ i ≤ 0) ∨ ∃ x, v = .float x ∧ x.le (.finite 0) = false

def IsTexts (v : Value) : Prop := ∃ items, v = texts items

def IsStoreKind (v : Value) : Prop := ∃ kind ∈ ["json", "gist", "none", "noop"], v = .string kind

def IsText (v : Value) : Prop := ∃ text, v = .string text ∧ text ≠ ""

variable {v : Value} {items : List Value}

theorem isBool_iff : isBool v = true ↔ IsFlag v := by
  unfold IsFlag isBool
  cases v <;> simp

theorem isNumber_iff : isNumber v = true ↔ IsNumber v := by
  unfold IsNumber isNumber
  cases v <;> simp

theorem isPositive_iff : isPositive v = true ↔ IsAboveZero v := by
  unfold IsAboveZero isPositive
  cases v <;> simp

theorem all_isString_iff : items.all isString = true ↔ ∃ texts : List String, items = texts.map .string := by
  induction items with
  | nil => exact iff_of_true rfl ⟨[], rfl⟩
  | cons item items ih =>
    rw [List.all_cons, Bool.and_eq_true, ih]
    constructor
    · rintro ⟨hitem, texts, rfl⟩
      cases item with
      | string s => exact ⟨s :: texts, rfl⟩
      | _ => cases hitem
    · rintro ⟨texts, htexts⟩
      obtain ⟨s, texts, rfl, rfl, rfl⟩ := List.map_eq_cons_iff.1 htexts.symm
      exact ⟨rfl, texts, rfl⟩

theorem isTextList_iff : isTextList v = true ↔ IsTexts v := by
  unfold IsTexts isTextList texts
  cases v with
  | list items =>
    dsimp only
    rw [all_isString_iff]
    simp
  | _ => simp

theorem isStoreKind_iff : isStoreKind v = true ↔ IsStoreKind v := by
  unfold IsStoreKind isStoreKind storeKinds
  cases v <;> simp

theorem isFilled_iff : isFilled v = true ↔ IsText v := by
  unfold IsText isFilled
  cases v <;> simp

/-! ## Rules -/

/-- A truth value in a table of settings, `standard` where there is none. -/
def flagIn (standard : Bool) (key : String) (table : Value) : Bool :=
  match table.get? key with
  | some (.bool b) => b
  | _ => standard

/-- A table with a switch for each category. -/
def switches (on : Category → Bool) : List (Value × Value) :=
  Category.all.map fun category => (.string category.name, .bool (on category))

/-- What an entry of a table of rules does to the switches. -/
def switch (on : Category → Bool) (entry : Value × Value) : Category → Bool := fun category =>
  match entry.2 with
  | .bool b => if entry.1.sameKey (.string category.name) then b else on category
  | _ => on category

theorem switches_standard : switches (fun _ => true) = standardRules := rfl

theorem lookup_switches (category : Category) (on : Category → Bool) :
    Value.lookup (.string category.name) (switches on) = some (.bool (on category)) := by
  cases category <;> rfl

/-- A table of switches has the categories for keys and nothing else. -/
theorem isSome_lookup_switches_iff {key : Value} {on : Category → Bool} :
    (Value.lookup key (switches on)).isSome = true ↔ ∃ category : Category, key = .string category.name := by
  constructor
  · intro h
    by_contra hnone
    have hne (category : Category) : (Value.string category.name).sameKey key = false := by
      rw [Value.sameKey_comm, Bool.eq_false_iff, ne_eq, Value.sameKey_string_iff]
      exact fun heq => hnone ⟨category, heq⟩
    unfold switches Category.all at h
    simp [Value.lookup, hne] at h
  · rintro ⟨category, rfl⟩
    rw [lookup_switches, Option.isSome_some]

theorem insert_switches (category : Category) (b : Bool) (on : Category → Bool) :
    Value.insert (.string category.name) (.bool b) (switches on) =
      switches (switch on (.string category.name, .bool b)) := by
  cases category <;> rfl

/-- An entry that is no switch of a category changes none. -/
theorem switch_of_not {on : Category → Bool} {entry : Value × Value}
    (h : ¬ ((Value.lookup entry.1 (switches on)).isSome = true ∧ isBool entry.2 = true)) :
    switch on entry = on := by
  funext category
  unfold switch
  split
  · next b hb =>
    rw [if_neg]
    intro hkey
    rw [Value.sameKey_string_iff] at hkey
    refine h ⟨isSome_lookup_switches_iff.2 ⟨category, hkey⟩, ?_⟩
    rw [hb]
    rfl
  · rfl

/-- The table of rules, and the notices so far, after an entry of a table that is merged into it. -/
def mergeRule (merged : List (Value × Value) × List Notice) (entry : Value × Value) :
    List (Value × Value) × List Notice :=
  if (Value.lookup entry.1 merged.1).isSome && isBool entry.2 then
    (Value.insert entry.1 entry.2 merged.1, merged.2)
  else (merged.1, merged.2 ++ [.malformedRule])

theorem mergeRules_eq (given : List (Value × Value)) :
    mergeRules given = given.foldl mergeRule (standardRules, []) := rfl

theorem fst_mergeRule (on : Category → Bool) (notices : List Notice) (entry : Value × Value) :
    (mergeRule (switches on, notices) entry).1 = switches (switch on entry) := by
  unfold mergeRule
  split
  · next h =>
    rw [Bool.and_eq_true] at h
    obtain ⟨key, value⟩ := entry
    obtain ⟨category, rfl⟩ := isSome_lookup_switches_iff.1 h.1
    obtain ⟨b, rfl⟩ := isBool_iff.1 h.2
    exact insert_switches category b on
  · next h =>
    rw [Bool.and_eq_true] at h
    rw [switch_of_not h]

/-- The entries of a table turn the switches on and off one after the other. -/
theorem fst_foldl_mergeRule (given : List (Value × Value)) (on : Category → Bool) (notices : List Notice) :
    (given.foldl mergeRule (switches on, notices)).1 = switches (given.foldl switch on) := by
  induction given generalizing on notices with
  | nil => rfl
  | cons entry given ih =>
    rw [List.foldl_cons, List.foldl_cons, ← ih (switch on entry) (mergeRule (switches on, notices) entry).2,
      ← fst_mergeRule on notices]

theorem fst_mergeRules (given : List (Value × Value)) :
    (mergeRules given).1 = switches (given.foldl switch fun _ => true) := by
  rw [mergeRules_eq, ← switches_standard]
  exact fst_foldl_mergeRule given _ []

/-- In a table without a key twice a switch is what is under its category. -/
theorem foldl_switch {given : List (Value × Value)} (h : Value.HasDistinctKeys given) (on : Category → Bool)
    (category : Category) :
    given.foldl switch on category = flagIn (on category) category.name (.map given) := by
  induction given generalizing on with
  | nil => rfl
  | cons entry given ih =>
    obtain ⟨key, value⟩ := entry
    obtain ⟨hfirst, hrest⟩ := List.pairwise_cons.1 h
    rw [List.foldl_cons, ih hrest]
    unfold flagIn Value.get? switch
    dsimp only
    rw [Value.lookup.eq_2]
    cases hkey : key.sameKey (.string category.name) with
    | true =>
      -- the key does not come again
      have hnone : Value.lookup (.string category.name) given = none := by
        refine Value.lookup_eq_none fun entry hentry => ?_
        rw [Value.sameKey_comm, ← Value.sameKey_congr hkey]
        exact hfirst entry hentry
      rw [hnone]
      cases value <;> rfl
    | false => cases value <;> rfl

/-- The rules that a setting gives are the switches in it, and all are on that it does not turn off. -/
theorem rulesOf_eq {table : Value} (h : ∀ given, table = .map given → Value.HasDistinctKeys given) :
    rulesOf table = switches fun category => flagIn true category.name table := by
  cases table with
  | map given =>
    show (mergeRules given).1 = _
    rw [fst_mergeRules]
    congr 1
    funext category
    exact foldl_switch (h given rfl) _ category
  | _ => rfl

/-! ## Linter settings -/

/-- The settings of a linter: whether it is enabled, its command, and how long it may take. -/
def linterEntries (enabled : Bool) (command : List String) (timeout : Value) : List (Value × Value) :=
  [(.string "enabled", .bool enabled), (.string "command", texts command), (.string "timeout", timeout)]

/-- A command as a setting gives it: the words of a text, a list of texts that is not empty, and else the
standard command. -/
inductive Commands : Option Value → List String → Prop
  | words (s : String) : Commands (some (.string s)) ((Text.words s.toList).map String.ofList)
  | list {command : List String} (h : command ≠ []) : Commands (some (texts command)) command
  | standard {given : Option Value} (hwords : ∀ s, given ≠ some (.string s))
    (hlist : ∀ command, command ≠ [] → given ≠ some (texts command)) : Commands given ["eslint"]

/-- A time limit as a setting gives it: a number, and else the standard one. -/
inductive Limits : Option Value → Value → Prop
  | number {v : Value} (h : IsNumber v) : Limits (some v) v
  | standard {given : Option Value} (h : ∀ v, IsNumber v → given ≠ some v) : Limits given (.int 30)

theorem Limits.isNumber {given : Option Value} {v : Value} (h : Limits given v) : IsNumber v := by
  cases h with
  | number h => exact h
  | standard => exact .inl ⟨30, rfl⟩

/-- A table of linter settings is the standard one with three entries changed, each for itself. -/
theorem mergeLinter_eq_entries (given : List (Value × Value)) :
    let setting (key : String) : Value := (Value.lookup (.string key) given).getD .null
    mergeLinter given = [
      (.string "enabled", if isBool (setting "enabled") then setting "enabled" else .bool false),
      (.string "command", (commandOf? (setting "command")).getD (texts ["eslint"])),
      (.string "timeout", if isNumber (setting "timeout") then setting "timeout" else .int 30)] := by
  unfold mergeLinter
  dsimp only
  cases isBool ((Value.lookup (.string "enabled") given).getD .null) <;>
    cases commandOf? ((Value.lookup (.string "command") given).getD .null) <;>
      cases isNumber ((Value.lookup (.string "timeout") given).getD .null) <;>
        simp only [Bool.false_eq_true, if_true, if_false] <;> rfl

theorem exists_commands (given : Option Value) : ∃ command, Commands given command ∧
    (commandOf? (given.getD .null)).getD (texts ["eslint"]) = texts command := by
  by_cases hwords : ∃ s, given = some (.string s)
  · obtain ⟨s, rfl⟩ := hwords
    exact ⟨_, .words s, rfl⟩
  · by_cases hlist : ∃ command, command ≠ [] ∧ given = some (texts command)
    · obtain ⟨command, hne, rfl⟩ := hlist
      refine ⟨command, .list hne, ?_⟩
      have hall : (command.map Value.string).all isString = true := all_isString_iff.2 ⟨command, rfl⟩
      show ((if !(command.map Value.string).isEmpty && (command.map Value.string).all isString then
        some (texts command) else none).getD _) = _
      rw [hall, if_pos (by simpa using hne)]
      rfl
    · refine ⟨["eslint"], .standard (fun s h => hwords ⟨s, h⟩) fun command hne h => hlist ⟨command, hne, h⟩, ?_⟩
      -- what is neither a text nor a list of texts gives no command
      have hnone : commandOf? (given.getD .null) = none := by
        unfold commandOf?
        split
        · next s hs =>
          cases given with
          | none => cases hs
          | some v => exact absurd ⟨s, congrArg some hs⟩ hwords
        · next items hitems =>
          rw [if_neg]
          rw [Bool.and_eq_true, all_isString_iff]
          rintro ⟨hne, command, rfl⟩
          cases given with
          | none => cases hitems
          | some v => exact hlist ⟨command, by simpa using hne, congrArg some hitems⟩
        · rfl
      rw [hnone]
      rfl

theorem exists_limits (given : Option Value) :
    Limits given (if isNumber (given.getD .null) then given.getD .null else .int 30) := by
  split
  · next h =>
    cases given with
    | none => cases h
    | some v => exact .number (isNumber_iff.1 h)
  · next h =>
    refine .standard fun v hv heq => h ?_
    rw [heq]
    exact isNumber_iff.2 hv

theorem flagIn_eq (standard : Bool) (key : String) (given : List (Value × Value)) :
    let setting := (Value.lookup (.string key) given).getD .null
    (if isBool setting then setting else .bool standard) = .bool (flagIn standard key (.map given)) := by
  unfold flagIn Value.get?
  dsimp only
  cases Value.lookup (.string key) given with
  | none => rfl
  | some v => cases v <;> rfl

/-- The linter settings that are put into the standard ones. -/
theorem mergeLinter_eq (given : List (Value × Value)) : ∃ command timeout,
    Commands ((Value.map given).get? "command") command ∧ Limits ((Value.map given).get? "timeout") timeout ∧
      mergeLinter given = linterEntries (flagIn false "enabled" (.map given)) command timeout := by
  obtain ⟨command, hcommand, hsame⟩ := exists_commands (Value.lookup (.string "command") given)
  refine ⟨command, _, hcommand, exists_limits (Value.lookup (.string "timeout") given), ?_⟩
  rw [mergeLinter_eq_entries, hsame, flagIn_eq]
  rfl

/-- The linter settings that a setting gives, each for itself. -/
theorem linterOf_eq (table : Value) : ∃ command timeout, Commands (table.get? "command") command ∧
    Limits (table.get? "timeout") timeout ∧
      linterOf table = linterEntries (flagIn false "enabled" table) command timeout := by
  cases table with
  | map given => exact mergeLinter_eq given
  | _ => exact ⟨["eslint"], .int 30, .standard nofun nofun, .standard nofun, rfl⟩

/-! ## Whole configurations -/

/-- A setting of `d` is that of `c` if it can be used, and else the standard one; either can be used. -/
structure IsMended (usable : Value → Prop) (key : String) (c d : Config) : Prop where
  holds : ∃ v, d.get? key = some v ∧ usable v
  kept : usable (c.get key) → d.get? key = some (c.get key)
  replaced : ¬ usable (c.get key) → d.get? key = some (standard.get key)

/-- A map has no key twice, and neither has the table of rules in it. -/
structure IsMapping (c : Config) : Prop where
  keys : Value.HasDistinctKeys c.entries
  rules : ∀ given, c.get "rules" = .map given → Value.HasDistinctKeys given

/-- The configuration `d` can be used in every setting that the program looks at, is made of `c` setting by
setting, and is `c` in every other. -/
structure Mends (c d : Config) : Prop where
  mapping : IsMapping d
  flags : ∀ key ∈ ["enabled", "auto_analyze_on_save"], IsMended IsFlag key c d
  amounts : ∀ key ∈ ["max_file_size", "retention_days"], IsMended IsAboveZero key c d
  lists : ∀ key ∈ ["custom_rules", "exclude_patterns"], IsMended IsTexts key c d
  rules : d.get? "rules" =
    some (.map (switches fun category => flagIn true category.name (c.get "rules")))
  linter : ∃ command timeout, Commands ((c.get "linter").get? "command") command ∧
    Limits ((c.get "linter").get? "timeout") timeout ∧ IsNumber timeout ∧ d.get? "linter" =
      some (.map (linterEntries (flagIn false "enabled" (c.get "linter")) command timeout))
  store : IsMended IsStoreKind "store" c d
  paths : ∀ key ∈ ["store_path", "root"], IsMended IsText key c d
  others : ∀ key, (∀ name ∈ settings, key ≠ .string name) →
    Value.lookup key d.entries = Value.lookup key c.entries

variable {key : String} {c : Config}

/-- A setting that is not null is there. -/
theorem get?_eq_some {v : Value} (h : c.get key = v) (hv : v ≠ .null) : c.get? key = some v := by
  unfold get at h
  cases hget : c.get? key with
  | none =>
    rw [hget] at h
    exact absurd h.symm hv
  | some v' =>
    rw [hget] at h
    exact congrArg some h

theorem get?_eq_some_map {entries : List (Value × Value)} (h : c.get key = .map entries) :
    c.get? key = some (.map entries) := get?_eq_some h (by simp)

/-- Every standard value passes the test of its setting. -/
theorem standard_usable : ∀ p ∈ tests, p.2 (standard.get p.1) = true := by decide

section Tests

variable {test : Value → Bool} {usable : Value → Prop} (hiff : ∀ v, test v = true ↔ usable v)
  (hnull : test .null = false) (c : Config)

include hiff hnull

theorem isMended_of_test (htest : (key, test) ∈ tests) : IsMended usable key c (validate c).1 := by
  have hget := get_validate htest c
  have hsome {v : Value} (hv : test v = true) (h : (validate c).1.get key = v) :
      (validate c).1.get? key = some v := by
    refine get?_eq_some h fun heq => ?_
    rw [heq, hnull] at hv
    cases hv
  cases h : test (c.get key) with
  | true =>
    rw [if_pos h] at hget
    exact ⟨⟨_, hsome h hget, (hiff _).1 h⟩, fun _ => hsome h hget, fun hnot => absurd ((hiff _).1 h) hnot⟩
  | false =>
    have hstandard : test (standard.get key) = true := standard_usable _ htest
    have hnot : ¬ usable (c.get key) := by rw [← hiff, h]; exact Bool.false_ne_true
    rw [if_neg (by rw [h]; exact Bool.false_ne_true)] at hget
    exact ⟨⟨_, hsome hstandard hget, (hiff _).1 hstandard⟩, fun hyes => absurd hyes hnot,
      fun _ => hsome hstandard hget⟩

/-- Settings with the same test. -/
theorem isMended_of_tests {keys : List String} (htests : ∀ key ∈ keys, (key, test) ∈ tests) :
    ∀ key ∈ keys, IsMended usable key c (validate c).1 := fun key hkey =>
  isMended_of_test hiff hnull c (htests key hkey)

end Tests

theorem hasDistinctKeys_switches (on : Category → Bool) : Value.HasDistinctKeys (switches on) := by
  simp [Value.HasDistinctKeys, switches, Category.all, Category.name, Value.sameKey]

/-- A validated configuration is the one that was given with what could not be used replaced, setting by
setting, and nothing else changed. -/
theorem validate_mends (h : IsMapping c) : Mends c (validate c).1 := by
  have hrules := get_validate_rules c
  rw [rulesOf_eq h.rules] at hrules
  obtain ⟨command, timeout, hcommand, htimeout, hlinter⟩ := linterOf_eq (c.get "linter")
  have hsettings := get_validate_linter c
  rw [hlinter] at hsettings
  constructor
  case mapping =>
    refine ⟨hasDistinctKeys_validate h.keys, fun given hgiven => ?_⟩
    obtain rfl := Value.map.inj (hrules.symm.trans hgiven)
    exact hasDistinctKeys_switches _
  case flags => exact isMended_of_tests (fun _ => isBool_iff) rfl c (by simp [tests])
  case amounts => exact isMended_of_tests (fun _ => isPositive_iff) rfl c (by simp [tests])
  case lists => exact isMended_of_tests (fun _ => isTextList_iff) rfl c (by simp [tests])
  case rules => exact get?_eq_some_map hrules
  case linter => exact ⟨command, timeout, hcommand, htimeout, htimeout.isNumber, get?_eq_some_map hsettings⟩
  case store => exact isMended_of_test (fun _ => isStoreKind_iff) rfl c (by simp [tests])
  case paths => exact isMended_of_tests (fun _ => isFilled_iff) rfl c (by simp [tests])
  case others => exact fun key hkey => lookup_validate_of_other hkey c

/-- Settings of wrong kinds, some of them in tables, beside settings that are kept. -/
theorem validate_mends_of_mixed :
    let c : Config := ⟨[
      (.string "enabled", .int 1), (.string "retention_days", .float .nan),
      (.string "rules", .map [(.string "style", .bool false), (.string "security", .string "no")]),
      (.string "linter", .map [(.string "command", .string "npx eslint"), (.string "timeout", .bool true)]),
      (.int 7, .null)]⟩
    IsMapping c ∧ Mends c (validate c).1 ∧
      (validate c).1.get? "enabled" = some (.bool true) ∧
      (validate c).1.get? "retention_days" = some (.float .nan) ∧
      (validate c).1.get? "rules" = some (.map [
        (.string "security", .bool true), (.string "performance", .bool true), (.string "style", .bool false)]) := by
  intro c
  have hmapping : IsMapping c := by
    refine ⟨by simp [c, Value.HasDistinctKeys, Value.sameKey, Value.amount?], fun given hgiven => ?_⟩
    obtain rfl := Value.map.inj hgiven
    simp [Value.HasDistinctKeys, Value.sameKey]
  have hmends := validate_mends hmapping
  refine ⟨hmapping, hmends, ?_, ?_, hmends.rules⟩
  · refine (hmends.flags "enabled" (by simp)).replaced ?_
    rintro ⟨b, hb⟩
    cases hb
  · refine (hmends.amounts "retention_days" (by simp)).kept ?_
    exact .inr ⟨.nan, rfl, rfl⟩

end CodeReview.Config
