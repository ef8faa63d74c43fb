/-
What the wizard is told. An answer is what some line was accepted for (`exists_accepted_of_ask`), so whatever
settings the wizard asks for come of answers (`exists_answers`), and the answers can be told from them
(`Answers.eq_of_settings`). Asking leaves the disk alone (`preserves_askSettings`).
-/
import CodeReview.Proofs.Config.Names
import CodeReview.Session.Wizard

namespace CodeReview

open Config Result

/-! ## Dialogues -/

namespace Dialogue

variable {α : Type} {question : String} {accept : List Char → Except String α} {answer : α} {s : Session}

theorem exists_accepted_of_converse {lines : List (List Char)}
    (h : (converse question accept lines).answer = some answer) :
    ∃ line ∈ lines, accept line = .ok answer := by
  induction lines with
  | nil => cases h
  | cons line lines ih =>
    unfold converse at h
    cases haccept : accept line with
    | ok accepted =>
      rw [haccept] at h
      obtain rfl := Option.some.inj h
      exact ⟨line, List.mem_cons_self, haccept⟩
    | error complaint =>
      rw [haccept] at h
      obtain ⟨later, hlater, haccepted⟩ := ih h
      exact ⟨later, List.mem_cons_of_mem _ hlater, haccepted⟩

/-- An answer is what some line was accepted for. -/
theorem exists_accepted_of_ask (h : (ask question accept s).result = .ok answer) :
    ∃ line ∈ s.input, accept line = .ok answer := by
  unfold ask at h
  rw [Act.get_bind] at h
  obtain ⟨-, -, h⟩ := Act.result_bind_eq_ok.1 h
  obtain ⟨-, -, h⟩ := Act.result_bind_eq_ok.1 h
  cases hanswer : (converse question accept s.input).answer with
  | none =>
    rw [hanswer] at h
    cases h
  | some given =>
    rw [hanswer] at h
    obtain rfl := Except.ok.inj h
    exact exists_accepted_of_converse hanswer

theorem acceptInteger_ge {standard least n : Int} {line : List Char} (hstandard : least ≤ standard)
    (h : acceptInteger standard least line = .ok n) : least ≤ n := by
  unfold acceptInteger at h
  split_ifs at h
  · exact Except.ok.inj h ▸ hstandard
  · split at h
    · cases h
    · split_ifs at h with hless
      exact Except.ok.inj h ▸ not_lt.1 hless

theorem mem_of_acceptChoice {choices : List String} {standard given : String} {line : List Char}
    (hstandard : standard ∈ choices) (h : acceptChoice choices standard line = .ok given) :
    given ∈ choices := by
  unfold acceptChoice at h
  dsimp only at h
  split_ifs at h with hempty hchoice
  · exact Except.ok.inj h ▸ hstandard
  · exact Except.ok.inj h ▸ List.contains_iff_mem.1 hchoice

theorem acceptText_ne_empty {standard given : String} {line : List Char} (hstandard : standard ≠ "")
    (h : acceptText standard line = .ok given) : given ≠ "" := by
  obtain rfl := Except.ok.inj h
  split_ifs with hempty
  · exact hstandard
  · intro heq
    rw [String.ofList_eq_empty_iff] at heq
    exact hempty (List.isEmpty_iff.2 heq)

/-- Asking changes nothing but what is left to be read. -/
theorem preserves_ask {P : Session → Prop} (hinput : ∀ s input, P s → P { s with input })
    (question : String) (accept : List Char → Except String α) : Act.Preserves P (ask question accept) := by
  unfold ask
  refine .bind .get fun session => .bind (fun s hs => hinput s _ hs) fun _ => .bind (.display _) fun _ => ?_
  split
  · exact .pure _
  · exact .fail _

end Dialogue

namespace Wizard

variable {configPath : String} {description : Option String} {s : Session}

/-! ## Answers -/

/-- Where the history is to be kept. -/
inductive Place where
  | file (path : String) (filled : path ≠ "")
  | gist (id : Option String)
  | nowhere

namespace Place

def backend : Place → String
  | file .. => "json"
  | gist _ => "gist"
  | nowhere => "none"

/-- The settings that are written for a place; the standard file is no setting. -/
def settings : Place → List (String × Value)
  | file path _ => if path = standardStorePath then [] else [("store_path", .string path)]
  | gist (some id) => [("gist_id", .string id)]
  | gist none | nowhere => []

/-- The names of the settings that a place is about. -/
def names : Place → List String
  | file .. => ["store_path"]
  | gist (some _) => ["gist_id"]
  | gist none | nowhere => []

/-- The path that was answered. -/
def path? : Place → Option String
  | file path _ => some path
  | _ => none

/-- The gist that was made. -/
def id? : Place → Option String
  | gist id => id
  | _ => none

theorem eq_of_settings {place place' : Place} (hbackend : place.backend = place'.backend)
    (h : place.settings = place'.settings) : place = place' := by
  cases place with
  | file path filled =>
    cases place' with
    | file path' filled' =>
      rw [settings, settings] at h
      split_ifs at h with hpath hpath' hpath'
      · subst hpath hpath'
        rfl
      · obtain ⟨heq, -⟩ := List.cons.inj h
        obtain rfl := Value.string.inj (Prod.mk.inj heq).2
        rfl
    | gist id => exact absurd hbackend (by simp [backend])
    | nowhere => exact absurd hbackend (by simp [backend])
  | gist id =>
    cases place' with
    | file path filled => exact absurd hbackend (by simp [backend])
    | gist id' =>
      cases id with
      | none =>
        cases id' with
        | none => rfl
        | some id' => cases h
      | some id =>
        cases id' with
        | none => cases h
        | some id' =>
          obtain ⟨heq, -⟩ := List.cons.inj h
          rw [Value.string.inj (Prod.mk.inj heq).2]
    | nowhere => exact absurd hbackend (by simp [backend])
  | nowhere =>
    cases place' with
    | nowhere => rfl
    | _ => exact absurd hbackend (by simp [backend])

end Place

/-- What the wizard was told. -/
structure Answers where
  enabled : Category → Bool
  size : Int
  size_pos : 0 < size
  place : Place

namespace Answers

variable (answers : Answers)

def rules : List (Value × Value) :=
  Category.all.map fun category => (.string category.name, .bool (answers.enabled category))

/-- The names of the settings that the answers are about. -/
def names : List String := ["rules", "max_file_size", "store"] ++ answers.place.names

/-- The settings that are written for the answers. -/
def settings : List (String × Value) :=
  [("rules", .map answers.rules), ("max_file_size", .int answers.size),
    ("store", .string answers.place.backend)] ++ answers.place.settings

variable {answers}

/-- The answers can be told from the settings that are written for them. -/
theorem eq_of_settings {answers' : Answers} (h : named answers.settings = named answers'.settings) :
    answers = answers' := by
  have hinj : Function.Injective fun setting : String × Value => (Value.string setting.1, setting.2) := by
    rintro ⟨name, value⟩ ⟨name', value'⟩ heq
    obtain ⟨hname, hvalue⟩ := Prod.mk.inj heq
    exact Prod.ext (Value.string.inj hname) hvalue
  have hsettings : answers.settings = answers'.settings := List.map_injective_iff.2 hinj h
  obtain ⟨hrules, hrest⟩ := List.cons.inj hsettings
  obtain ⟨hsize, hrest⟩ := List.cons.inj hrest
  obtain ⟨hbackend, hplace⟩ := List.cons.inj hrest
  have henabled : answers.enabled = answers'.enabled := by
    funext category
    have hmem : category ∈ Category.all := by cases category <;> decide
    have heq := List.map_inj_left.1 (Value.map.inj (Prod.mk.inj hrules).2) category hmem
    exact Value.bool.inj (Prod.mk.inj heq).2
  have hsame := Place.eq_of_settings (Value.string.inj (Prod.mk.inj hbackend).2) hplace
  obtain ⟨enabled, size, size_pos, place⟩ := answers
  obtain ⟨enabled', size', size_pos', place'⟩ := answers'
  obtain rfl := Value.int.inj (Prod.mk.inj hsize).2
  obtain rfl : enabled = enabled' := henabled
  obtain rfl : place = place' := hsame
  rfl

end Answers

/-! ## Asking -/

theorem preserves_askRules {P : Session → Prop} (hinput : ∀ s input, P s → P { s with input })
    (categories : List Category) : Act.Preserves P (askRules categories) := by
  induction categories with
  | nil => exact .pure _
  | cons category rest ih =>
    exact .bind (Dialogue.preserves_ask hinput _ _) fun wanted => .bind ih fun rules => .pure _

theorem askRules_eq {categories : List Category} {rules : List (Value × Value)} (hnodup : categories.Nodup)
    (h : (askRules categories s).result = .ok rules) :
    ∃ enabled : Category → Bool,
      rules = categories.map fun category => (.string category.name, .bool (enabled category)) := by
  induction categories generalizing s rules with
  | nil => exact ⟨fun _ => true, (Except.ok.inj h).symm⟩
  | cons category rest ih =>
    obtain ⟨hnew, hrest⟩ := List.nodup_cons.1 hnodup
    obtain ⟨wanted, -, h⟩ := Act.result_bind_eq_ok.1 h
    obtain ⟨others, hothers, h⟩ := Act.result_bind_eq_ok.1 h
    obtain rfl := Except.ok.inj h
    obtain ⟨enabled, rfl⟩ := ih hrest hothers
    -- a category that comes once can be given an answer of its own
    refine ⟨Function.update enabled category wanted, ?_⟩
    rw [List.map_cons, Function.update_self]
    congr 1
    refine List.map_congr_left fun other hother => ?_
    have hne : other ≠ category := fun heq => hnew (heq ▸ hother)
    rw [Function.update_of_ne hne]

/-- What is asked about a place is what is written for it. -/
theorem askFile_eq {settings : List (Value × Value)} (h : (askFile s).result = .ok settings) :
    ∃ path filled, settings = named (Place.file path filled).settings := by
  obtain ⟨path, hpath, h⟩ := Act.result_bind_eq_ok.1 h
  obtain ⟨-, -, h⟩ := Act.result_bind_eq_ok.1 h
  obtain ⟨line, -, haccept⟩ := Dialogue.exists_accepted_of_ask hpath
  refine ⟨path, Dialogue.acceptText_ne_empty (by decide) haccept, ?_⟩
  obtain rfl := Except.ok.inj h
  rw [Place.settings, apply_ite named]
  rfl

theorem makeGist_eq {settings : List (Value × Value)}
    (h : (makeGist configPath description s).result = .ok settings) :
    ∃ id, settings = named (Place.gist id).settings := by
  obtain ⟨-, -, h⟩ := Act.result_bind_eq_ok.1 h
  obtain ⟨session, -, h⟩ := Act.result_bind_eq_ok.1 h
  obtain ⟨made, -, h⟩ := Act.result_bind_eq_ok.1 h
  refine ⟨made.filter (· ≠ ""), ?_⟩
  cases hid : made.filter (· ≠ "") with
  | some id =>
    simp only [hid] at h
    obtain ⟨-, -, h⟩ := Act.result_bind_eq_ok.1 h
    exact (Except.ok.inj h).symm
  | none =>
    simp only [hid] at h
    obtain ⟨-, -, h⟩ := Act.result_bind_eq_ok.1 h
    exact (Except.ok.inj h).symm

/-- Asks what there is to know of a backend. -/
def askPlace (configPath : String) (description : Option String) (backend : String) :
    Act Session (List (Value × Value)) :=
  if backend = "json" then askFile
  else if backend = "gist" then makeGist configPath description
  else pure []

theorem askSettings_eq : askSettings configPath description = (do
    let rules ← askRules Category.all
    let size ← Dialogue.askInteger "Maximum file size to analyse (KB)" 500 1
    explainBackends
    let backend ← Dialogue.askChoice "Store backend" backends "json"
    let more ← askPlace configPath description backend
    return [(.string "rules", .map rules), (.string "max_file_size", .int size),
      (.string "store", .string backend)] ++ more) := by
  unfold askSettings askPlace
  refine bind_congr fun rules => bind_congr fun size => bind_congr fun _ => bind_congr fun backend => ?_
  dsimp only
  split_ifs
  · rfl
  · rfl
  · rfl

/-- Whatever the wizard asks for comes of answers. -/
theorem exists_answers {settings : List (Value × Value)}
    (h : (askSettings configPath description s).result = .ok settings) :
    ∃ answers : Answers, settings = named answers.settings := by
  rw [askSettings_eq] at h
  obtain ⟨rules, hrules, h⟩ := Act.result_bind_eq_ok.1 h
  obtain ⟨size, hsize, h⟩ := Act.result_bind_eq_ok.1 h
  obtain ⟨-, -, h⟩ := Act.result_bind_eq_ok.1 h
  obtain ⟨backend, hbackend, h⟩ := Act.result_bind_eq_ok.1 h
  obtain ⟨more, hmore, h⟩ := Act.result_bind_eq_ok.1 h
  obtain rfl := Except.ok.inj h
  obtain ⟨enabled, rfl⟩ := askRules_eq (by decide) hrules
  obtain ⟨sizeLine, -, hsizeLine⟩ := Dialogue.exists_accepted_of_ask hsize
  have hpos : 1 ≤ size := Dialogue.acceptInteger_ge (by decide) hsizeLine
  obtain ⟨choice, -, hchoice⟩ := Dialogue.exists_accepted_of_ask hbackend
  have hmem : backend ∈ backends := Dialogue.mem_of_acceptChoice (by decide) hchoice
  have hplace : ∃ place : Place, backend = place.backend ∧ more = named place.settings := by
    simp only [backends, List.mem_cons, List.not_mem_nil, or_false] at hmem
    rcases hmem with rfl | rfl | rfl
    · obtain ⟨path, filled, hpath⟩ := askFile_eq hmore
      exact ⟨.file path filled, rfl, hpath⟩
    · obtain ⟨id, hid⟩ := makeGist_eq hmore
      exact ⟨.gist id, rfl, hid⟩
    · exact ⟨.nowhere, rfl, (Except.ok.inj hmore).symm⟩
  obtain ⟨place, rfl, rfl⟩ := hplace
  refine ⟨⟨enabled, size, Int.lt_of_add_one_le hpos, place⟩, ?_⟩
  unfold Answers.settings named
  rw [List.map_append]
  rfl

/-- Asking leaves the disk alone. -/
theorem preserves_askSettings (disk : Disk) :
    Act.Preserves (fun session => session.disk = disk) (askSettings configPath description) := by
  have hask {α : Type} (question : String) (accept : List Char → Except String α) :
      Act.Preserves (fun session : Session => session.disk = disk) (Dialogue.ask question accept) :=
    Dialogue.preserves_ask (fun _ _ h => h) question accept
  rw [askSettings_eq]
  refine .bind (preserves_askRules (fun _ _ h => h) _) fun rules => .bind (hask _ _) fun size => ?_
  refine .bind (.bind (.display _) fun _ => .bind (.display _) fun _ => .bind (.display _) fun _ =>
    .display _) fun _ => .bind (hask _ _) fun backend => .bind ?_ fun more => .pure _
  unfold askPlace
  split_ifs
  · exact .bind (hask _ _) fun path => .bind (.display _) fun _ => .pure _
  · refine .bind (.display _) fun _ => .bind .get fun session => .bind ?_ fun id => ?_
    · exact fun _ h => h
    · split
      · exact .bind (.display _) fun _ => .pure _
      · exact .bind (.display _) fun _ => .pure _
  · exact .pure _

end Wizard

end CodeReview
