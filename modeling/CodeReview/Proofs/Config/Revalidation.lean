/-
Configurations that are validated again. What a validation leaves is settled (`IsSettled`): another one has
nothing to say about it and changes nothing in it (`validate_of_isSettled`), but for one case. A blank text is
taken for a command and leaves a list without words, while a list without words is not taken for one and
leaves the standard command. So a blank command takes two validations to settle (`validate_validate`).
-/
import CodeReview.Proofs.Config.Usable

namespace CodeReview

/-- Putting in what is there changes nothing. -/
theorem Value.insert_eq_self {key value : Value} {entries : List (Value × Value)}
    (h : lookup key entries = some value) : insert key value entries = entries := by
  induction entries with
  | nil => cases h
  | cons entry entries ih =>
    obtain ⟨k, v⟩ := entry
    unfold lookup at h
    unfold insert
    split at h
    · next hkey =>
      rw [if_pos hkey, Option.some.inj h]
    · next hkey =>
      rw [if_neg hkey, ih h]

namespace Config

variable {c : Config} {notices : List Notice}

theorem set_eq_self {key : String} {value : Value} (h : c.get? key = some value) : c.set key value = c :=
  congrArg Config.mk (Value.insert_eq_self h)

theorem get_of_get? {key : String} {value : Value} (h : c.get? key = some value) : c.get key = value :=
  congrArg (·.getD .null) h

theorem repair_eq_self {key : String} {usable : Value → Bool} (h : usable (c.get key) = true) :
    repair key usable (c, notices) = (c, notices) := if_pos h

/-! ## Tables that are merged again -/

theorem flagIn_switches (on : Category → Bool) (category : Category) :
    flagIn true category.name (.map (switches on)) = on category := by
  unfold flagIn Value.get?
  dsimp only
  rw [lookup_switches]

/-- A switch of a category is taken without a notice. -/
theorem snd_mergeRule (on : Category → Bool) (category : Category) (b : Bool) :
    (mergeRule (switches on, notices) (.string category.name, .bool b)).2 = notices := by
  unfold mergeRule
  rw [lookup_switches]
  rfl

theorem snd_foldl_mergeRule (on given : Category → Bool) (categories : List Category) :
    ((categories.map fun category => (Value.string category.name, Value.bool (given category))).foldl
      mergeRule (switches on, notices)).2 = notices := by
  induction categories generalizing on with
  | nil => rfl
  | cons category categories ih =>
    let entry : Value × Value := (.string category.name, .bool (given category))
    have hfst := fst_mergeRule on notices entry
    have hsnd : (mergeRule (switches on, notices) entry).2 = notices := snd_mergeRule on category _
    rw [List.map_cons, List.foldl_cons, ← Prod.eta (mergeRule (switches on, notices) entry), hfst, hsnd]
    exact ih _

/-- A whole table of switches is taken as it is. -/
theorem mergeRules_switches (on : Category → Bool) : mergeRules (switches on) = (switches on, []) := by
  refine Prod.ext ?_ ?_
  · rw [fst_mergeRules]
    congr 1
    funext category
    rw [foldl_switch (hasDistinctKeys_switches on), flagIn_switches]
  · rw [mergeRules_eq, ← switches_standard]
    exact snd_foldl_mergeRule _ on Category.all

/-- The command of a linter after another validation. -/
def refill (command : List String) : List String := if command = [] then ["eslint"] else command

theorem refill_refill (command : List String) : refill (refill command) = refill command := by
  unfold refill
  split <;> simp_all

theorem refill_eq_self_iff {command : List String} : refill command = command ↔ command ≠ [] := by
  unfold refill
  split
  · next h => simp [h]
  · next h => simp [h]

theorem texts_injective : Function.Injective texts := fun _ _ h =>
  List.map_injective_iff.2 (fun _ _ => Value.string.inj) (Value.list.inj h)

theorem Commands.of_texts {command command' : List String} (h : Commands (some (texts command)) command') :
    command' = refill command := by
  generalize hgiven : some (texts command) = given at h
  unfold refill
  cases h with
  | words s => cases hgiven
  | list hne =>
    obtain rfl := texts_injective (Option.some.inj hgiven)
    rw [if_neg hne]
  | standard hwords hlist =>
    by_cases hempty : command = []
    · rw [if_pos hempty]
    · exact absurd hgiven.symm (hlist command hempty)

theorem Limits.of_number {v v' : Value} (hv : IsNumber v) (h : Limits (some v) v') : v' = v := by
  cases h with
  | number => rfl
  | standard h => exact absurd rfl (h v hv)

/-- The text of the command has no words. -/
theorem Commands.eq_nil_iff {given : Option Value} {command : List String} (h : Commands given command) :
    command = [] ↔ ∃ s, given = some (.string s) ∧ ∀ x ∈ s.toList, Text.isBlank x = true := by
  cases h with
  | words s => simp [Text.words_eq_nil_iff]
  | list hne => simp [hne, texts]
  | standard hwords => simp [hwords]

theorem mergeLinter_linterEntries (enabled : Bool) (command : List String) {timeout : Value}
    (h : IsNumber timeout) :
    mergeLinter (linterEntries enabled command timeout) = linterEntries enabled (refill command) timeout := by
  obtain ⟨command', timeout', hcommand, htimeout, hmerge⟩ := mergeLinter_eq (linterEntries enabled command timeout)
  obtain rfl : command' = refill command := Commands.of_texts hcommand
  obtain rfl : timeout' = timeout := Limits.of_number h htimeout
  exact hmerge

/-! ## Settled configurations -/

/-- Every setting can be used as it is, but for the linter's command, which may be without words. -/
structure IsSettled (c : Config) (enabled : Bool) (command : List String) (timeout : Value) : Prop where
  tested : ∀ p ∈ tests, p.2 (c.get p.1) = true
  rules : ∃ on, c.get? "rules" = some (.map (switches on))
  linter : c.get? "linter" = some (.map (linterEntries enabled command timeout))
  timeout : IsNumber timeout

variable {enabled : Bool} {command : List String} {timeout : Value}

theorem tested_validate (c : Config) : ∀ p ∈ tests, p.2 ((validate c).1.get p.1) = true := by
  intro p hp
  rw [get_validate hp]
  split
  · next h => exact h
  · exact standard_usable p hp

/-- The linter settings are not tested by themselves. -/
theorem get_set_linter {p : String × (Value → Bool)} (hp : p ∈ tests) (c : Config) (value : Value) :
    (c.set "linter" value).get p.1 = c.get p.1 := by
  have hne : ∀ p ∈ tests, "linter" ≠ p.1 := by decide
  rw [get_set, if_neg (hne p hp)]

/-- A validation settles every configuration. -/
theorem isSettled_validate (c : Config) : ∃ enabled command timeout,
    Commands ((c.get "linter").get? "command") command ∧ IsSettled (validate c).1 enabled command timeout := by
  have hrules : ∃ on, rulesOf (c.get "rules") = switches on := by
    cases c.get "rules" with
    | map given => exact ⟨_, fst_mergeRules given⟩
    | _ => exact ⟨_, switches_standard.symm⟩
  obtain ⟨on, hon⟩ := hrules
  obtain ⟨command, timeout, hcommand, htimeout, hlinter⟩ := linterOf_eq (c.get "linter")
  refine ⟨flagIn false "enabled" (c.get "linter"), command, timeout, hcommand, tested_validate c, ⟨on, ?_⟩, ?_,
    htimeout.isNumber⟩
  · exact get?_eq_some_map ((get_validate_rules c).trans (by rw [hon]))
  · exact get?_eq_some_map ((get_validate_linter c).trans (by rw [hlinter]))

theorem checkRules_eq_self {on : Category → Bool} (h : c.get? "rules" = some (.map (switches on))) :
    checkRules (c, notices) = (c, notices) := by
  unfold checkRules
  rw [get_of_get? h]
  dsimp only
  rw [mergeRules_switches, set_eq_self h, List.append_nil]

theorem checkLinter_of_isSettled (h : IsSettled c enabled command timeout) :
    checkLinter (c, notices) =
      (c.set "linter" (.map (linterEntries enabled (refill command) timeout)), notices) := by
  unfold checkLinter
  rw [get_of_get? h.linter]
  dsimp only
  rw [mergeLinter_linterEntries enabled command h.timeout, List.append_nil]

/-- A settled configuration is validated without a notice, and nothing but its linter's command is changed. -/
theorem validate_of_isSettled (h : IsSettled c enabled command timeout) :
    validate c = (c.set "linter" (.map (linterEntries enabled (refill command) timeout)), []) := by
  obtain ⟨on, hrules⟩ := h.rules
  have hbefore : ∀ p ∈ tests, repair p.1 p.2 (c, []) = (c, []) := fun p hp => repair_eq_self (h.tested p hp)
  have hafter (value : Value) : ∀ p ∈ tests,
      repair p.1 p.2 (c.set "linter" value, []) = (c.set "linter" value, []) := by
    refine fun p hp => repair_eq_self ?_
    rw [get_set_linter hp]
    exact h.tested p hp
  simp only [tests, List.forall_mem_cons] at hbefore hafter
  unfold validate
  simp only [hbefore, checkRules_eq_self hrules, checkLinter_of_isSettled h, hafter]

/-- Only the command of the linter is another one. -/
theorem IsSettled.setCommand (h : IsSettled c enabled command timeout) (command' : List String) :
    IsSettled (c.set "linter" (.map (linterEntries enabled command' timeout))) enabled command' timeout where
  tested := by
    intro p hp
    rw [get_set_linter hp]
    exact h.tested p hp
  rules := by
    obtain ⟨on, hrules⟩ := h.rules
    exact ⟨on, (get?_set ..).trans ((if_neg (by decide)).trans hrules)⟩
  linter := (get?_set ..).trans (if_pos rfl)
  timeout := h.timeout

/-- The settled configuration is validated to itself if its linter's command has words. -/
theorem fst_validate_eq_self_iff (h : IsSettled c enabled command timeout) :
    (validate c).1 = c ↔ command ≠ [] := by
  rw [validate_of_isSettled h, ← refill_eq_self_iff]
  constructor
  · intro heq
    have hlinter := (h.setCommand (refill command)).linter
    dsimp only at heq
    rw [heq, h.linter] at hlinter
    simpa [linterEntries, texts_injective.eq_iff, eq_comm] using hlinter
  · intro hrefill
    rw [hrefill]
    exact set_eq_self h.linter

/-! ## The second validation and the third -/

/-- The linter has a command that is a text of nothing but blanks. -/
def HasBlankCommand (c : Config) : Prop :=
  ∃ s, (c.get "linter").get? "command" = some (.string s) ∧ ∀ x ∈ s.toList, Text.isBlank x = true

/-- A second validation has nothing to say, and changes something for a blank command alone: the list without
words, which the first left of it, is replaced by the standard command. A third changes nothing. -/
theorem validate_validate (c : Config) :
    let d := (validate c).1
    (validate d).2 = [] ∧ ((validate d).1 = d ↔ ¬ c.HasBlankCommand) ∧
      (c.HasBlankCommand → ∃ enabled timeout,
        d.get? "linter" = some (.map (linterEntries enabled [] timeout)) ∧
          (validate d).1 = d.set "linter" (.map (linterEntries enabled ["eslint"] timeout))) ∧
      validate (validate d).1 = validate d := by
  intro d
  obtain ⟨enabled, command, timeout, hcommand, hsettled⟩ := isSettled_validate c
  have hblank : command = [] ↔ c.HasBlankCommand := hcommand.eq_nil_iff
  have hagain := validate_of_isSettled hsettled
  refine ⟨by rw [hagain], ?_, fun h => ?_, ?_⟩
  · rw [fst_validate_eq_self_iff hsettled, ← hblank]
  · obtain rfl := hblank.2 h
    exact ⟨enabled, timeout, hsettled.linter, by rw [hagain]; rfl⟩
  · have hthird := validate_of_isSettled (hsettled.setCommand (refill command))
    rw [refill_refill, set_eq_self (hsettled.setCommand _).linter] at hthird
    rw [hagain]
    exact hthird

/-- An empty command. -/
theorem validate_validate_of_empty :
    let d := (validate ⟨[(.string "linter", .map [(.string "command", .string "")])]⟩).1
    (validate d).1 ≠ d := by
  intro d
  rw [ne_eq, (validate_validate _).2.1, not_not]
  exact ⟨"", rfl, by simp⟩

end Config

end CodeReview
