/-
What the wizard was told and what is loaded afterwards. The answers are laid over the settings that the
file holds (`load_run`). Then what is loaded is what was told unless the file gives the size, the path or the
gist under another name behind their own, or gives a path at all where the standard one was the answer
(`asTold_iff`).
-/
import CodeReview.Proofs.Disk.Frame
import CodeReview.Proofs.Session.Answers

namespace CodeReview.Wizard

open Config Result

variable {configPath : String} {description : Option String} {s : Session}

/-! ## Writing -/

/-- What the wizard finds in a file is what is loaded from it, and no key comes twice. -/
theorem fileSettings_of_settingsIn {σ : Type} {t : σ} {disk : Disk} {existing : Config}
    (h : settingsIn disk (Path.ofString configPath) = .ok existing) :
    (fileSettings disk configPath t).result = .ok existing.entries ∧
      Value.HasDistinctKeys existing.entries := by
  unfold settingsIn at h
  obtain ⟨there, hthere, h⟩ := bind_eq_ok_iff.1 h
  cases there with
  | false =>
    obtain rfl := Except.ok.inj h
    exact ⟨fileSettings_of_absent hthere, List.Pairwise.nil⟩
  | true =>
    rw [if_pos rfl] at h
    obtain ⟨text, htext, h⟩ := bind_eq_ok_iff.1 h
    obtain ⟨value, hvalue, h⟩ := bind_eq_ok_iff.1 h
    have hread : (disk.readText (Path.ofString configPath).text >>= Yaml.read) = .ok value := by
      rw [htext]
      exact hvalue
    unfold fileSettings
    rw [Act.result_bind, hthere, Act.result_ofExcept]
    dsimp only [Act.state_ofExcept]
    rw [if_neg (by simp), hread]
    cases value with
    | map entries =>
      obtain rfl := Except.ok.inj h
      exact ⟨rfl, hasDistinctKeys_of_read hvalue⟩
    | _ =>
      obtain rfl := Except.ok.inj h
      refine ⟨?_, List.Pairwise.nil⟩
      dsimp only
      split_ifs
      · rfl
      · rfl

/-- The settings that are written are those over the ones in the file. -/
theorem writeSettings_ok {settings : List (Value × Value)} {disk : Disk}
    (h : (writeSettings configPath settings disk).result = .ok ()) :
    ∃ existing, settingsIn disk (Path.ofString configPath) = .ok existing ∧
      (writeSettings configPath settings disk).state.find (Path.ofString configPath).text =
        .ok (.file (Text.encode (Yaml.write (existing.overlay settings).entries))) := by
  unfold writeSettings at h ⊢
  rw [Act.get_bind] at h ⊢
  obtain ⟨existing, hexisting, h⟩ := Act.result_bind_eq_ok.1 h
  obtain ⟨disk', hwith, hstate⟩ := Act.tryModify_eq_ok_iff.1 h
  have hfind := Disk.find_of_withFile hwith
  refine ⟨existing, hexisting, ?_⟩
  rw [Act.state_bind, hexisting]
  dsimp only
  rw [← hstate] at hfind
  exact hfind

theorem say_bind {α : Type} (line : String) (next : Unit → Act Session α) (s : Session) :
    ((Act.say line >>= next) s).result = (next () s).result ∧
      ((Act.say line >>= next) s).state = (next () s).state :=
  ⟨rfl, rfl⟩

theorem onDisk_eq {α : Type} (act : Act Disk α) (s : Session) :
    (Session.onDisk act s).result = (act s.disk).result ∧
      (Session.onDisk act s).state.disk = (act s.disk).state :=
  ⟨rfl, rfl⟩

/-- When the wizard is done, the settings have been asked for and written. -/
theorem run_ok (h : (run configPath description s).result = .ok ()) :
    ∃ settings, (askSettings configPath description s).result = .ok settings ∧
      (writeSettings configPath settings s.disk).result = .ok () ∧
      (run configPath description s).state.disk = (writeSettings configPath settings s.disk).state := by
  -- the settings are written to the disk as it was before the questions
  have hdisk : (askSettings configPath description s).state.disk = s.disk :=
    preserves_askSettings s.disk s rfl
  unfold run at h ⊢
  rw [(say_bind _ _ s).1] at h
  rw [(say_bind _ _ s).2]
  obtain ⟨settings, hsettings, h⟩ := Act.result_bind_eq_ok.1 h
  obtain ⟨written, hwritten, -⟩ := Act.result_bind_eq_ok.1 h
  rw [(onDisk_eq _ _).1, hdisk] at hwritten
  refine ⟨settings, hsettings, hwritten, ?_⟩
  rw [Act.bind_ok hsettings]
  dsimp only
  have hthen : (Session.onDisk (writeSettings configPath settings)
      (askSettings configPath description s).state).result = .ok () := by
    rw [(onDisk_eq _ _).1, hdisk]
    exact hwritten
  rw [Act.bind_ok hthen]
  dsimp only
  rw [(say_bind _ _ _).2, (say_bind _ _ _).2]
  show (Session.onDisk _ _).state.disk = _
  rw [(onDisk_eq _ _).2, hdisk]

/-! ## What is loaded -/

namespace Answers

/-- The configuration file with the answers over its settings. -/
def written (answers : Answers) (existing : Config) : Config := existing.overlay (named answers.settings)

/-- What was told is what is loaded, and every other setting is loaded as before. -/
structure AsTold (answers : Answers) (before after : Config) : Prop where
  rules : after.get "rules" = .map answers.rules
  size : after.get "max_file_size" = .int answers.size
  store : after.get "store" = .string answers.place.backend
  path : ∀ path, answers.place.path? = some path → after.get "store_path" = .string path
  gist : ∀ id, answers.place.id? = some id → after.get "gist_id" = .string id
  others : ∀ key, (∀ name ∈ answers.names, (Value.string name).sameKey key = false) →
    Value.lookup key after.entries = Value.lookup key before.entries

/-- Whatever a file gives a setting behind its own name is as answered, and so is any path at all where the
standard one was answered, since that is not written. -/
structure Unopposed (answers : Answers) (inFile : List (Value × Value)) : Prop where
  size : ∀ v, givenLater? "max_file_size" inFile = some v →
    accepted "max_file_size" isPositive v = .int answers.size
  path : ∀ path, answers.place.path? = some path → ∀ v,
    (if path = standardStorePath then given? "store_path" inFile else givenLater? "store_path" inFile) =
      some v → accepted "store_path" isFilled v = .string path
  gist : ∀ id, answers.place.id? = some id → ∀ v, givenLater? "gist_id" inFile = some v → v = .string id

variable {answers : Answers} {existing : Config} {name : String} {value : Value}

theorem mergeRules_rules (answers : Answers) : (mergeRules answers.rules).1 = answers.rules := by
  unfold rules
  simp [mergeRules, Category.all, Category.name, standardRules, Value.lookup, Value.insert, Value.sameKey,
    isBool]

theorem sublist_names (answers : Answers) : (answers.settings.map Prod.fst).Sublist answers.names := by
  unfold settings names
  rw [List.map_append]
  refine .append (.refl _) ?_
  cases answers.place with
  | file path filled =>
    rw [Place.settings]
    split_ifs
    · exact List.nil_sublist _
    · exact .refl _
  | gist id =>
    cases id with
    | none => exact .refl _
    | some id => exact .refl _
  | nowhere => exact .refl _

theorem names_cases (answers : Answers) : answers.names = ["rules", "max_file_size", "store"] ∨
    answers.names = ["rules", "max_file_size", "store", "store_path"] ∨
    answers.names = ["rules", "max_file_size", "store", "gist_id"] := by
  unfold names
  cases answers.place with
  | file path filled => exact .inr (.inl rfl)
  | gist id =>
    cases id with
    | none => exact .inl rfl
    | some id => exact .inr (.inr rfl)
  | nowhere => exact .inl rfl

theorem isOwn_of_mem (h : name ∈ answers.names) : IsOwn name := by
  have hknown : name ∈ ["rules", "max_file_size", "store", "store_path", "gist_id"] := by
    rcases answers.names_cases with hnames | hnames | hnames
    all_goals
      rw [hnames] at h
      simp only [List.mem_cons, List.not_mem_nil, or_false] at h ⊢
      tauto
  simp only [List.mem_cons, List.not_mem_nil, or_false] at hknown
  rcases hknown with rfl | rfl | rfl | rfl | rfl <;> rfl

theorem isOwn_settings : ∀ setting ∈ answers.settings, IsOwn setting.1 := fun _ h =>
  isOwn_of_mem (answers.sublist_names.subset (List.mem_map_of_mem h))

theorem nodup_names (answers : Answers) : answers.names.Nodup := by
  rcases answers.names_cases with hnames | hnames | hnames
  all_goals
    rw [hnames]
    decide

/-- A setting that was answered is given as answered unless the file gives it something behind its name. -/
theorem given?_written (h : (name, value) ∈ answers.settings) :
    given? name (answers.written existing).entries =
      (givenLater? name existing.entries).or (some value) :=
  given?_overlay isOwn_settings (answers.nodup_names.sublist answers.sublist_names) h

/-- A setting with one name only is given as answered. -/
theorem given?_written_of_isOnly (h : (name, value) ∈ answers.settings) (honly : IsOnly name)
    (hdistinct : Value.HasDistinctKeys existing.entries) :
    given? name (answers.written existing).entries = some value := by
  rw [given?_written h, givenLater?_eq_none honly hdistinct, Option.none_or]

/-- A setting that was answered is loaded as answered exactly if what the file gives it behind its name is
loaded as that, too. -/
theorem get_written_iff {usable : Value → Bool} (htest : (name, usable) ∈ tests)
    (husable : usable value = true) (h : (name, value) ∈ answers.settings) (token : Option String) :
    (settled (answers.written existing).entries [] token).get name = value ↔
      ∀ v, givenLater? name existing.entries = some v → accepted name usable v = value := by
  rw [get_settled_of_test htest, given?_written h]
  cases givenLater? name existing.entries with
  | none => exact iff_of_true (if_pos husable) nofun
  | some v => exact ⟨fun hv _ heq => Option.some.inj heq ▸ hv, fun hv => hv v rfl⟩

theorem get_path_iff {path : String} (h : answers.place.path? = some path) (token : Option String) :
    (settled (answers.written existing).entries [] token).get "store_path" = .string path ↔
      ∀ v, (if path = standardStorePath then given? "store_path" existing.entries
        else givenLater? "store_path" existing.entries) = some v →
          accepted "store_path" isFilled v = .string path := by
  have htest : ("store_path", isFilled) ∈ tests := by simp [tests]
  obtain ⟨filled, hplace⟩ : ∃ filled, answers.place = .file path filled := by
    cases hplace : answers.place with
    | file other filled =>
      rw [hplace] at h
      obtain rfl := Option.some.inj h
      exact ⟨filled, rfl⟩
    | gist id => rw [hplace] at h; cases h
    | nowhere => rw [hplace] at h; cases h
  split_ifs with hstandard
  · -- the standard path is not written, so the last one in the file still counts
    have hne : ∀ setting ∈ answers.settings,
        (Value.string setting.1).sameKey (.string "store_path") = false := by
      unfold settings
      rw [hplace, Place.settings, if_pos hstandard]
      simp [Value.sameKey]
    have hkept : given? "store_path" (answers.written existing).entries =
        given? "store_path" existing.entries := last?_overlay_of_ne isOwn_settings hne
    have hdefault : standard.get "store_path" = .string path := by
      rw [hstandard]
      simp [Config.get, Config.get?, standard, Value.lookup, Value.sameKey]
    rw [get_settled_of_test htest, hkept]
    cases given? "store_path" existing.entries with
    | none => exact iff_of_true hdefault fun v h => absurd h (by simp)
    | some v => exact ⟨fun hv _ heq => Option.some.inj heq ▸ hv, fun hv => hv v rfl⟩
  · refine get_written_iff htest (by simpa [isFilled] using filled) ?_ token
    unfold settings
    rw [hplace, Place.settings, if_neg hstandard]
    exact List.mem_append_right _ List.mem_cons_self

theorem get_gist_iff {id : String} (h : answers.place.id? = some id) (token : Option String) :
    (settled (answers.written existing).entries [] token).get "gist_id" = .string id ↔
      ∀ v, givenLater? "gist_id" existing.entries = some v → v = .string id := by
  have hplace : answers.place = .gist (some id) := by
    cases hplace : answers.place with
    | gist other =>
      rw [hplace] at h
      rw [show other = some id from h]
    | file path filled => rw [hplace] at h; cases h
    | nowhere => rw [hplace] at h; cases h
  have hmem : ("gist_id", .string id) ∈ answers.settings := by
    unfold settings
    rw [hplace]
    exact List.mem_append_right _ List.mem_cons_self
  rw [get_settled_gist, given?_written hmem]
  cases givenLater? "gist_id" existing.entries with
  | none => exact iff_of_true rfl nofun
  | some v => exact ⟨fun hv _ heq => Option.some.inj heq ▸ hv, fun hv => hv v rfl⟩

/-- What is loaded is what was told exactly if the file gave nothing else. -/
theorem asTold_iff (answers : Answers) (hdistinct : Value.HasDistinctKeys existing.entries)
    (token : Option String) :
    answers.AsTold (settled existing.entries [] token) (settled (answers.written existing).entries [] token) ↔
      answers.Unopposed existing.entries := by
  have hrules : given? "rules" (answers.written existing).entries = some (.map answers.rules) :=
    given?_written_of_isOnly (by simp [settings]) (by decide) hdistinct
  have hstore : given? "store" (answers.written existing).entries = some (.string answers.place.backend) :=
    given?_written_of_isOnly (by simp [settings]) (by decide) hdistinct
  have hpositive : ("max_file_size", isPositive) ∈ tests := by simp [tests]
  have hkind : ("store", isStoreKind) ∈ tests := by simp [tests]
  have hmem : ("max_file_size", .int answers.size) ∈ answers.settings := by simp [settings]
  have husable : isPositive (.int answers.size) = true := by simp [isPositive, answers.size_pos]
  have hsize : (settled (answers.written existing).entries [] token).get "max_file_size" =
      .int answers.size ↔ _ := get_written_iff hpositive husable hmem token
  have hothers (key : Value) (hkey : ∀ name ∈ answers.names, (Value.string name).sameKey key = false) :
      Value.lookup key (settled (answers.written existing).entries [] token).entries =
        Value.lookup key (settled existing.entries [] token).entries :=
    lookup_settled_congr (last?_overlay_of_ne isOwn_settings fun setting hsetting =>
      hkey _ (answers.sublist_names.subset (List.mem_map_of_mem hsetting))) token
  constructor
  · intro h
    exact ⟨hsize.1 h.size, fun path hpath => (get_path_iff hpath token).1 (h.path path hpath),
      fun id hid => (get_gist_iff hid token).1 (h.gist id hid)⟩
  · intro h
    refine ⟨?_, hsize.2 h.size, ?_, fun path hpath => (get_path_iff hpath token).2 (h.path path hpath),
      fun id hid => (get_gist_iff hid token).2 (h.gist id hid), hothers⟩
    · rw [get_settled_rules _ _ hrules, mergeRules_rules]
    · rw [get_settled_of_test hkind, hstore]
      refine if_pos ?_
      cases answers.place <;> rfl

end Answers

/-- The settings are read as they are written. -/
def AreReadBack (entries : List (Value × Value)) : Prop :=
  spelt (Text.encode (Yaml.write entries)) = .ok (.map entries)

/-- When the wizard is done, the file holds the answers over the settings that it held, and what is loaded is
what these are read as. Where they are read as they are written, what is loaded is what was told exactly if
the file gave nothing else. -/
theorem load_run {σ : Type} {t : σ} (token : Option String)
    (hrun : (run configPath description s).result = .ok ()) :
    ∃ (answers : Answers) (existing before : Config),
      (askSettings configPath description s).result = .ok (named answers.settings) ∧
      settingsIn s.disk (Path.ofString configPath) = .ok existing ∧
      (load s.disk configPath [] token t).result = .ok before ∧
      (load (run configPath description s).state.disk configPath [] token t).result =
        (settingsOf (spelt (Text.encode (Yaml.write (answers.written existing).entries)))).map
          (fun inFile => settled inFile [] token) ∧
      (AreReadBack (answers.written existing).entries → ∃ after,
        (load (run configPath description s).state.disk configPath [] token t).result = .ok after ∧
        (answers.AsTold before after ↔ answers.Unopposed existing.entries)) := by
  obtain ⟨settings, hsettings, hwrite, hdisk⟩ := run_ok hrun
  obtain ⟨answers, rfl⟩ := exists_answers hsettings
  obtain ⟨existing, hexisting, hfile⟩ := writeSettings_ok hwrite
  obtain ⟨hinFile, hdistinct⟩ := fileSettings_of_settingsIn (t := t) hexisting
  have hbefore : (load s.disk configPath [] token t).result = .ok (settled existing.entries [] token) := by
    rw [load_result, hinFile]
    rfl
  have hafter : (load (run configPath description s).state.disk configPath [] token t).result =
      (settingsOf (spelt (Text.encode (Yaml.write (answers.written existing).entries)))).map
        (fun inFile => settled inFile [] token) := by
    rw [hdisk]
    exact load_of_file hfile
  refine ⟨answers, existing, _, hsettings, hexisting, hbefore, hafter, fun hback => ?_⟩
  refine ⟨settled (answers.written existing).entries [] token, ?_, answers.asTold_iff hdistinct token⟩
  rw [hafter, show spelt _ = _ from hback]
  rfl

/-- The settings of a file that gives a path and nothing else. -/
def oldPath : Config := ⟨[(.string "store_path", .string "b.json")]⟩

/-- A session with such a file, where all the questions are answered with empty lines. -/
def withOldPath : Session where
  disk := ⟨[("a.yml", .file (Text.encode "store_path: b.json".toList))], []⟩
  gists := ⟨none, true, []⟩
  now := ⟨⟨2024, 1, 1⟩, 0, 0, 0, 0, none⟩
  input := [[], [], [], [], [], []]

/-- What empty lines answer. -/
def standardAnswers : Answers := ⟨fun _ => true, 500, by decide, .file standardStorePath (by decide)⟩

/-- The settings are those of the file. -/
def isOldPath : Config → Bool
  | ⟨[(.string "store_path", .string "b.json")]⟩ => true
  | _ => false

/-- The settings are those that empty lines answer. -/
def areStandard : List (Value × Value) → Bool
  | [(.string "rules", .map [(.string "security", .bool true), (.string "performance", .bool true),
      (.string "style", .bool true)]), (.string "max_file_size", .int 500), (.string "store", .string "json")] =>
    true
  | _ => false

/-- The value is a mapping of the one and the others. -/
def isWritten : Value → Bool
  | .map ((.string "store_path", .string "b.json") :: more) => areStandard more
  | _ => false

theorem eq_of_isOldPath {c : Config} (h : isOldPath c = true) : c = oldPath := by
  unfold isOldPath at h
  split at h
  · rfl
  · cases h

theorem eq_of_areStandard {settings : List (Value × Value)} (h : areStandard settings = true) :
    settings = named standardAnswers.settings := by
  unfold areStandard at h
  split at h
  · rfl
  · cases h

theorem eq_of_isWritten {value : Value} (h : isWritten value = true) :
    value = .map (standardAnswers.written oldPath).entries := by
  unfold isWritten at h
  split at h
  · rw [eq_of_areStandard h]
    rfl
  · cases h

theorem exists_of_any {α : Type} {result : Except Fault α} {p : α → Bool}
    (h : result.toOption.any p = true) : ∃ a, result = .ok a ∧ p a = true := by
  cases result with
  | error fault => cases h
  | ok a => exact ⟨a, rfl, h⟩

theorem run_withOldPath : (run "a.yml" none withOldPath).result = .ok () := by
  have h : (run "a.yml" none withOldPath).result.toOption.any (fun _ => true) = true := by decide +kernel
  obtain ⟨done, hdone, -⟩ := exists_of_any h
  exact hdone

theorem settingsIn_withOldPath : settingsIn withOldPath.disk (Path.ofString "a.yml") = .ok oldPath := by
  have h : (settingsIn withOldPath.disk (Path.ofString "a.yml")).toOption.any isOldPath = true := by
    decide +kernel
  obtain ⟨existing, hexisting, hold⟩ := exists_of_any h
  rw [hexisting, eq_of_isOldPath hold]

theorem askSettings_withOldPath :
    (askSettings "a.yml" none withOldPath).result = .ok (named standardAnswers.settings) := by
  have h : (askSettings "a.yml" none withOldPath).result.toOption.any areStandard = true := by decide +kernel
  obtain ⟨settings, hsettings, hstandard⟩ := exists_of_any h
  rw [hsettings, eq_of_areStandard hstandard]

theorem areReadBack_withOldPath : AreReadBack (standardAnswers.written oldPath).entries := by
  have h : (spelt (Text.encode (Yaml.write (standardAnswers.written oldPath).entries))).toOption.any
      isWritten = true := by decide +kernel
  obtain ⟨value, hvalue, hwritten⟩ := exists_of_any h
  unfold AreReadBack
  rw [hvalue, eq_of_isWritten hwritten]

/-- The path in the file is still loaded when the standard one was answered. -/
theorem load_run_withOldPath : (run "a.yml" none withOldPath).result = .ok () ∧
    ∃ (answers : Answers) (before after : Config), answers.place.path? = some standardStorePath ∧
      (load withOldPath.disk "a.yml" [] none ()).result = .ok before ∧
      (load (run "a.yml" none withOldPath).state.disk "a.yml" [] none ()).result = .ok after ∧
      ¬ answers.AsTold before after := by
  obtain ⟨answers, existing, before, hsettings, hexisting, hbefore, -, hloaded⟩ :=
    load_run (t := ()) none run_withOldPath
  obtain rfl := Except.ok.inj (hexisting.symm.trans settingsIn_withOldPath)
  obtain rfl := Answers.eq_of_settings (Except.ok.inj (hsettings.symm.trans askSettings_withOldPath))
  obtain ⟨after, hafter, hiff⟩ := hloaded areReadBack_withOldPath
  refine ⟨run_withOldPath, standardAnswers, before, after, rfl, hbefore, hafter, fun htold => ?_⟩
  -- the file gives a path where the standard one was answered
  have hgiven : given? "store_path" oldPath.entries = some (.string "b.json") := rfl
  have hpath := (hiff.1 htold).path standardStorePath rfl (.string "b.json")
  rw [if_pos rfl] at hpath
  have hloadedPath : Value.string "b.json" = .string standardStorePath := hpath hgiven
  exact absurd (Value.string.inj hloadedPath) (by decide)

end CodeReview.Wizard
