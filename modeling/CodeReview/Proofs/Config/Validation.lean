/-
What validation leaves of a setting. A setting is changed by no step but its own (`IsChange`), so one that is
tested by itself is what it was if it can be used, and else the standard one (`get_validate`), the rules and
the linter settings are made of what they were (`get_validate_rules`, `get_validate_linter`), and any other
setting is as it was (`lookup_validate_of_other`).
-/
import CodeReview.Config.Validation
import CodeReview.Proofs.Config.Keys

namespace CodeReview

/-! ## Keys that are texts -/

theorem Value.sameKey_string_iff {k : Value} {key : String} :
    k.sameKey (.string key) = true ↔ k = .string key := by
  cases k with
  | string s => simp [sameKey]
  | _ => simp [sameKey, amount?]

theorem Value.lookup_insert (key key' : String) (value : Value) (entries : List (Value × Value)) :
    lookup (.string key') (insert (.string key) value entries) =
      if key = key' then some value else lookup (.string key') entries := by
  rw [lookup_insert_of_key]
  simp [sameKey]

namespace Config

theorem get?_set (c : Config) (key key' : String) (value : Value) :
    (c.set key value).get? key' = if key = key' then some value else c.get? key' :=
  Value.lookup_insert key key' value c.entries

theorem get_set (c : Config) (key key' : String) (value : Value) :
    (c.set key value).get key' = if key = key' then value else c.get key' := by
  unfold get
  rw [get?_set]
  split <;> rfl

/-! ## Steps of the validation -/

theorem get_repair (key key' : String) (usable : Value → Bool) (c : Checked) :
    (repair key usable c).1.get key' =
      if key = key' then if usable (c.1.get key) then c.1.get key else standard.get key
      else c.1.get key' := by
  unfold repair
  split
  · split
    · next hkey => rw [hkey]
    · rfl
  · rw [get_set]

/-- The rules that a setting gives. -/
def rulesOf : Value → List (Value × Value)
  | .map given => (mergeRules given).1
  | _ => standardRules

/-- The linter settings that a setting gives. -/
def linterOf : Value → List (Value × Value)
  | .map given => mergeLinter given
  | _ => standardLinter

theorem fst_checkRules (c : Checked) :
    (checkRules c).1 = c.1.set "rules" (.map (rulesOf (c.1.get "rules"))) := by
  unfold checkRules
  dsimp only
  cases c.1.get "rules" <;> rfl

theorem fst_checkLinter (c : Checked) :
    (checkLinter c).1 = c.1.set "linter" (.map (linterOf (c.1.get "linter"))) := by
  unfold checkLinter
  dsimp only
  cases c.1.get "linter" <;> rfl

theorem get_checkRules {key : String} (h : "rules" ≠ key) (c : Checked) :
    (checkRules c).1.get key = c.1.get key := by
  rw [fst_checkRules, get_set, if_neg h]

theorem get_checkLinter {key : String} (h : "linter" ≠ key) (c : Checked) :
    (checkLinter c).1.get key = c.1.get key := by
  rw [fst_checkLinter, get_set, if_neg h]

/-- The settings that are tested by themselves. -/
def tests : List (String × (Value → Bool)) := [
  ("enabled", isBool), ("auto_analyze_on_save", isBool), ("max_file_size", isPositive),
  ("retention_days", isPositive), ("custom_rules", isTextList), ("exclude_patterns", isTextList),
  ("store", isStoreKind), ("store_path", isFilled), ("root", isFilled)]

/-- A validated configuration gives a setting that is tested by itself its own value if that passes the
test, and else the standard one. -/
theorem get_validate {key : String} {usable : Value → Bool} (h : (key, usable) ∈ tests) (c : Config) :
    (validate c).1.get key = if usable (c.get key) then c.get key else standard.get key := by
  have hrules (hne : "rules" ≠ key) (c : Checked) : (checkRules c).1.get key = c.1.get key :=
    get_checkRules hne c
  have hlinter (hne : "linter" ≠ key) (c : Checked) : (checkLinter c).1.get key = c.1.get key :=
    get_checkLinter hne c
  unfold validate
  simp only [tests, List.mem_cons, List.not_mem_nil, or_false, Prod.mk.injEq] at h
  rcases h with ⟨rfl, rfl⟩ | ⟨rfl, rfl⟩ | ⟨rfl, rfl⟩ | ⟨rfl, rfl⟩ | ⟨rfl, rfl⟩ | ⟨rfl, rfl⟩ | ⟨rfl, rfl⟩ |
    ⟨rfl, rfl⟩ | ⟨rfl, rfl⟩
  all_goals simp [get_repair, hrules, hlinter]

theorem get_validate_rules (c : Config) :
    (validate c).1.get "rules" = .map (rulesOf (c.get "rules")) := by
  have hlinter (c : Checked) : (checkLinter c).1.get "rules" = c.1.get "rules" :=
    get_checkLinter (by decide) c
  unfold validate
  simp [get_repair, hlinter, fst_checkRules, get_set]

theorem get_validate_linter (c : Config) :
    (validate c).1.get "linter" = .map (linterOf (c.get "linter")) := by
  have hrules (c : Checked) : (checkRules c).1.get "linter" = c.1.get "linter" :=
    get_checkRules (by decide) c
  unfold validate
  simp [get_repair, hrules, fst_checkLinter, get_set]

/-- The days that a validated configuration gives are its own if they are a positive number, and else
the standard ones. -/
theorem get_validate_retention (c : Config) : (validate c).1.get "retention_days" =
    if isPositive (c.get "retention_days") then c.get "retention_days" else .int 30 := by
  have hstandard : standard.get "retention_days" = .int 30 := by
    simp [get, get?, standard, Value.lookup, Value.sameKey]
  have htest : ("retention_days", isPositive) ∈ tests := by simp [tests]
  rw [get_validate htest, hstandard]

/-- A configuration that gives a positive number of days keeps it. -/
theorem get_validate_of_isPositive {retention : Value} (h : isPositive retention = true) :
    (validate ⟨[(.string "retention_days", retention)]⟩).1.get "retention_days" = retention := by
  have hget : (⟨[(.string "retention_days", retention)]⟩ : Config).get "retention_days" = retention := by
    simp [get, get?, Value.lookup, Value.sameKey]
  rw [get_validate_retention, hget, if_pos h]

/-! ## Changes of one setting -/

variable {name : String} {key : Value} {step : Checked → Checked} {c c' : Config}

/-- The step changes one setting, if at all, and by nothing but that setting. -/
def IsChange (name : String) (step : Checked → Checked) : Prop :=
  ∃ change : Value → Option Value, ∀ c, (step c).1 = match change (c.1.get name) with
    | some value => c.1.set name value
    | none => c.1

theorem isChange_repair (name : String) (usable : Value → Bool) : IsChange name (repair name usable) := by
  refine ⟨fun v => if usable v then none else some (standard.get name), fun c => ?_⟩
  unfold repair
  dsimp only
  split
  · rfl
  · rfl

theorem isChange_checkRules : IsChange "rules" checkRules := ⟨fun v => some (.map (rulesOf v)), fst_checkRules⟩

theorem isChange_checkLinter : IsChange "linter" checkLinter :=
  ⟨fun v => some (.map (linterOf v)), fst_checkLinter⟩

/-- What is put in is under another key. -/
theorem IsChange.lookup_of_ne (h : IsChange name step) (hne : (Value.string name).sameKey key = false)
    (c : Checked) : Value.lookup key (step c).1.entries = Value.lookup key c.1.entries := by
  obtain ⟨change, hchange⟩ := h
  rw [hchange]
  cases change (c.1.get name) with
  | none => rfl
  | some value => exact (Value.lookup_insert_of_key ..).trans (if_neg (by rw [hne]; exact Bool.false_ne_true))

theorem IsChange.hasDistinctKeys (h : IsChange name step) {c : Checked}
    (hc : Value.HasDistinctKeys c.1.entries) : Value.HasDistinctKeys (step c).1.entries := by
  obtain ⟨change, hchange⟩ := h
  rw [hchange]
  cases change (c.1.get name) with
  | none => exact hc
  | some value => exact hc.insert _ _

/-- The settings that the program looks at, in the order in which they are validated. -/
def settings : List String := [
  "enabled", "auto_analyze_on_save", "max_file_size", "retention_days", "custom_rules",
  "exclude_patterns", "rules", "linter", "store", "store_path", "root"]

/-- The steps of the validation, in their order. -/
def steps : List (Checked → Checked) := [
  repair "enabled" isBool, repair "auto_analyze_on_save" isBool, repair "max_file_size" isPositive,
  repair "retention_days" isPositive, repair "custom_rules" isTextList,
  repair "exclude_patterns" isTextList, checkRules, checkLinter, repair "store" isStoreKind,
  repair "store_path" isFilled, repair "root" isFilled]

theorem validate_eq (c : Config) : validate c = steps.foldl (fun c step => step c) (c, []) := by
  unfold validate steps
  simp only [List.foldl_cons, List.foldl_nil]

theorem isChange_steps : List.Forall₂ IsChange settings steps := by
  unfold settings steps
  simp only [List.forall₂_cons, isChange_repair, isChange_checkRules, isChange_checkLinter, true_and]
  exact .nil

theorem exists_isChange (h : step ∈ steps) : ∃ name ∈ settings, IsChange name step := by
  obtain ⟨i, hi, rfl⟩ := List.getElem_of_mem h
  have hname : i < settings.length := isChange_steps.length_eq ▸ hi
  exact ⟨settings[i], List.getElem_mem hname, isChange_steps.get hname hi⟩

theorem foldl_keeps {P : Config → Prop} {steps : List (Checked → Checked)}
    (h : ∀ step ∈ steps, ∀ c : Checked, P c.1 → P (step c).1) (c : Checked) (hc : P c.1) :
    P (steps.foldl (fun c step => step c) c).1 := by
  induction steps generalizing c with
  | nil => exact hc
  | cons step steps ih =>
    obtain ⟨hstep, hsteps⟩ := List.forall_mem_cons.1 h
    exact ih hsteps (step c) (hstep c hc)

/-- What every change of one setting keeps is kept by the validation. -/
theorem validate_keeps {P : Config → Prop}
    (h : ∀ name ∈ settings, ∀ step, IsChange name step → ∀ c : Checked, P c.1 → P (step c).1) (hc : P c) :
    P (validate c).1 := by
  rw [validate_eq]
  refine foldl_keeps (fun step hstep => ?_) (c, []) hc
  obtain ⟨name, hname, hchange⟩ := exists_isChange hstep
  exact h name hname step hchange

theorem hasDistinctKeys_validate (hc : Value.HasDistinctKeys c.entries) :
    Value.HasDistinctKeys (validate c).1.entries :=
  validate_keeps (P := fun d => Value.HasDistinctKeys d.entries)
    (fun _ _ _ hchange _ => hchange.hasDistinctKeys) hc

/-- A setting that the program does not look at is as it was. -/
theorem lookup_validate_of_other (h : ∀ name ∈ settings, key ≠ .string name) (c : Config) :
    Value.lookup key (validate c).1.entries = Value.lookup key c.entries := by
  refine validate_keeps (P := fun d => Value.lookup key d.entries = Value.lookup key c.entries) ?_ rfl
  intro name hname step hchange d hd
  have hne : (Value.string name).sameKey key = false := by
    rw [Value.sameKey_comm, Bool.eq_false_iff, ne_eq, Value.sameKey_string_iff]
    exact h name hname
  rw [hchange.lookup_of_ne hne, hd]

/-! ## What depends on what -/

/-- What a step of the validation leaves under a key depends on nothing but what was there. -/
def IsLocal (key : Value) (step : Checked → Checked) : Prop :=
  ∀ c c' : Checked, Value.lookup key c.1.entries = Value.lookup key c'.1.entries →
    Value.lookup key (step c).1.entries = Value.lookup key (step c').1.entries

theorem IsChange.isLocal (h : IsChange name step) (key : Value) : IsLocal key step := by
  intro c c' hlookup
  cases hkey : (Value.string name).sameKey key with
  | true =>
    obtain ⟨change, hchange⟩ := h
    rw [hchange, hchange]
    have hname : key = .string name := by rwa [Value.sameKey_comm, Value.sameKey_string_iff] at hkey
    have hget : c.1.get name = c'.1.get name := by
      unfold get get?
      rw [← hname, hlookup]
    rw [hget]
    cases change (c'.1.get name) with
    | none => exact hlookup
    | some value => simp only [set, Value.lookup_insert_of_key, if_pos hkey]
  | false => rw [h.lookup_of_ne hkey, h.lookup_of_ne hkey, hlookup]

theorem isLocal_foldl {steps : List (Checked → Checked)} (h : ∀ step ∈ steps, IsLocal key step) :
    IsLocal key (steps.foldl fun c step => step c) := by
  induction steps with
  | nil => exact fun _ _ hlookup => hlookup
  | cons step steps ih =>
    obtain ⟨hstep, hsteps⟩ := List.forall_mem_cons.1 h
    exact fun c c' hlookup => ih hsteps _ _ (hstep c c' hlookup)

theorem lookup_validate_congr (h : Value.lookup key c.entries = Value.lookup key c'.entries) :
    Value.lookup key (validate c).1.entries = Value.lookup key (validate c').1.entries := by
  have hsteps : ∀ step ∈ steps, IsLocal key step := by
    intro step hstep
    obtain ⟨name, -, hchange⟩ := exists_isChange hstep
    exact hchange.isLocal key
  rw [validate_eq, validate_eq]
  generalize steps = all at hsteps ⊢
  exact isLocal_foldl hsteps (c, []) (c', []) h

end Config

end CodeReview
