/-
What loading makes of a configuration file. Bytes that spell a mapping give its settings, and bytes that
spell another value, or nothing that YAML has a form for, give those of no file at all; but a file whose
bytes are no text, or whose scalars are no values of their kind, cannot be loaded (`returns_load_iff`).
-/
import CodeReview.Config.Loading
import CodeReview.Proofs.Act
import CodeReview.Proofs.Config.Keys
import CodeReview.Proofs.Disk.Tree
import CodeReview.Proofs.Result

namespace CodeReview.Config

open Result

variable {σ : Type} {disk absent : Disk} {name : String} {given : List (Value × Value)}
  {token : Option String} {s : σ} {bytes : Text.Bytes} {fault : Fault}

/-! ## What is in a file -/

/-- The value that the bytes of a configuration file spell. -/
def spelt (bytes : Text.Bytes) : Except Fault Value :=
  match Text.decode bytes with
  | .ok text => Yaml.read (Text.normalizeNewlines text)
  | .error misfit => .error (.undecodable misfit)

/-- The bytes spell a mapping. -/
def SpellsMapping (bytes : Text.Bytes) : Prop := ∃ entries, spelt bytes = .ok (.map entries)

/-- The bytes spell a value, or fail to in a way that loading passes over. -/
def IsPassable (bytes : Text.Bytes) : Prop :=
  ∀ fault, spelt bytes = .error fault → isReadFault fault = true

theorem read_eq_spelt {path : String} (h : disk.find path = .ok (.file bytes)) :
    (disk.readText path >>= Yaml.read) = spelt bytes := by
  unfold spelt
  cases hutf8 : Text.decode bytes with
  | ok text =>
    rw [Disk.readText_of_find h hutf8]
    rfl
  | error misfit =>
    unfold Disk.readText Disk.read
    rw [h]
    simp only [bind, Except.bind, pure, Except.pure, hutf8]
    rfl

theorem has_of_find {path : String} {entry : Entry} (h : disk.find path = .ok entry) :
    disk.has path = .ok true := by
  unfold Disk.has
  rw [h]

/-- The settings of a value that is read, or the fault that is not passed over. -/
def settingsOf : Except Fault Value → Except Fault (List (Value × Value))
  | .ok (.map entries) => .ok entries
  | .ok _ => .ok []
  | .error fault => if isReadFault fault then .ok [] else .error fault

theorem fileSettings_result (h : disk.find (Path.ofString name).text = .ok (.file bytes)) :
    (fileSettings disk name s).result = settingsOf (spelt bytes) := by
  unfold fileSettings
  rw [Act.result_bind, has_of_find h, Act.result_ofExcept]
  dsimp only [Act.state_ofExcept]
  rw [if_neg (by simp), read_eq_spelt h]
  unfold settingsOf
  cases spelt bytes with
  | error fault =>
    dsimp only
    split
    · rfl
    · rfl
  | ok value =>
    cases value with
    | map entries => rfl
    | _ =>
      dsimp only
      split
      · rfl
      · rfl

theorem fileSettings_of_absent (h : disk.has (Path.ofString name).text = .ok false) :
    (fileSettings disk name s).result = .ok [] := by
  unfold fileSettings
  rw [Act.result_bind, h]
  rfl

/-! ## Mappings that are read -/

theorem scalarOf_ne_map {tag : Yaml.Tag} {text : List Char} {entries : List (Value × Value)} :
    Yaml.scalarOf tag text ≠ .ok (.map entries) := by
  intro h
  unfold Yaml.scalarOf at h
  split at h
  -- a time is a date or a moment
  case h_6 =>
    unfold Yaml.timestampOf at h
    split at h
    · cases h
    · obtain ⟨time, -, h⟩ := bind_eq_ok_iff.1 h
      cases time <;> cases h
  all_goals first
    | cases h
    | (obtain ⟨_, -, hvalue⟩ := map_eq_ok_iff.1 h
       cases hvalue)

theorem hasDistinctKeys_of_value {depth : ℕ} {node : Yaml.Node} {entries : List (Value × Value)}
    (h : node.value depth = .ok (.map entries)) : Value.HasDistinctKeys entries := by
  cases depth with
  | zero =>
    unfold Yaml.Node.value at h
    cases h
  | succ depth =>
    unfold Yaml.Node.value at h
    dsimp only at h
    split at h
    -- the entries of a mapping are put in one by one
    case h_4 =>
      obtain ⟨mapped, hmapped, heq⟩ := bind_eq_ok_iff.1 h
      obtain rfl := Value.map.inj (Except.ok.inj heq)
      obtain ⟨flat, -, hfold⟩ := bind_eq_ok_iff.1 hmapped
      refine foldlM_keeps (fun all item all' hall hitem => ?_) List.Pairwise.nil hfold
      obtain ⟨key, -, hput⟩ := bind_eq_ok_iff.1 hitem
      split at hput
      · cases hput
      · obtain ⟨value, -, heq⟩ := bind_eq_ok_iff.1 hput
        exact Except.ok.inj heq ▸ hall.insert key value
    case h_6 =>
      obtain ⟨text, -, hscalar⟩ := bind_eq_ok_iff.1 h
      exact absurd hscalar scalarOf_ne_map
    -- the other collections are no mappings
    case h_1 =>
      split at h
      · obtain ⟨items, -, heq⟩ := bind_eq_ok_iff.1 h
        cases heq
      · cases h
      · cases h
    case h_5 =>
      obtain ⟨mapped, -, heq⟩ := bind_eq_ok_iff.1 h
      cases heq
    all_goals
      split at h
      · obtain ⟨pairs, -, hpairs⟩ := bind_eq_ok_iff.1 h
        obtain ⟨items, -, heq⟩ := bind_eq_ok_iff.1 hpairs
        cases heq
      · cases h

/-- No key comes twice in a mapping that a text spells. -/
theorem hasDistinctKeys_of_read {text : List Char} {entries : List (Value × Value)}
    (h : Yaml.read text = .ok (.map entries)) : Value.HasDistinctKeys entries := by
  obtain ⟨node, -, hvalue⟩ := bind_eq_ok_iff.1 h
  cases node with
  | none => cases hvalue
  | some node => exact hasDistinctKeys_of_value hvalue

/-! ## What is loaded -/

/-- The configuration that comes of the settings in a file and those that the caller gives. -/
def settled (inFile given : List (Value × Value)) (token : Option String) : Config :=
  (validate ((standard.overlay (inFile.map fun (key, value) => (ownName key, value))).overlay
    (givenSettings given))).1.set tokenKey (match token with
      | some token => .string token
      | none => .null)

theorem load_result : (load disk name given token s).result =
    (fileSettings disk name s).result.map fun inFile => settled inFile given token := by
  unfold load
  rw [Act.result_bind]
  cases (fileSettings disk name s).result with
  | error fault => rfl
  | ok inFile =>
    show _ = Except.ok (settled inFile given token)
    unfold settled
    dsimp only
    generalize validate _ = checked
    rfl

theorem load_of_absent (h : disk.has (Path.ofString name).text = .ok false) :
    (load disk name given token s).result = .ok (settled [] given token) := by
  rw [load_result, fileSettings_of_absent h]
  rfl

theorem load_of_file (h : disk.find (Path.ofString name).text = .ok (.file bytes)) :
    (load disk name given token s).result =
      (settingsOf (spelt bytes)).map fun inFile => settled inFile given token := by
  rw [load_result, fileSettings_result h]

theorem settingsOf_eq_error_iff {value : Except Fault Value} :
    settingsOf value = .error fault ↔ value = .error fault ∧ isReadFault fault = false := by
  unfold settingsOf
  split
  · exact iff_of_false nofun nofun
  · exact iff_of_false nofun nofun
  · next other =>
    split
    · next hread =>
      refine iff_of_false nofun fun ⟨h, hfault⟩ => ?_
      rw [Except.error.inj h, hfault] at hread
      cases hread
    · next hread =>
      refine ⟨fun h => ?_, fun h => congrArg Except.error (Except.error.inj h.1)⟩
      obtain rfl := Except.error.inj h
      exact ⟨rfl, Bool.eq_false_iff.2 hread⟩

theorem returns_settingsOf_iff : Returns (settingsOf (spelt bytes)) ↔ IsPassable bytes := by
  constructor
  · rintro ⟨settings, h⟩ fault hfault
    cases hread : isReadFault fault with
    | true => rfl
    | false => cases h.symm.trans (settingsOf_eq_error_iff.2 ⟨hfault, hread⟩)
  · intro h
    cases hsettings : settingsOf (spelt bytes) with
    | ok settings => exact returns_ok settings
    | error fault =>
      obtain ⟨hfault, hread⟩ := settingsOf_eq_error_iff.1 hsettings
      rw [h fault hfault] at hread
      cases hread

theorem settingsOf_eq_nil (hmapping : ¬ SpellsMapping bytes) (h : IsPassable bytes) :
    settingsOf (spelt bytes) = .ok [] := by
  unfold settingsOf
  split
  · next entries hvalue => exact absurd ⟨entries, hvalue⟩ hmapping
  · rfl
  · next fault hfault => rw [if_pos (h fault hfault)]

end CodeReview.Config
