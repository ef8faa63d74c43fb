/-
Where a setting comes from. Of all that is said about a setting one value counts (`source`): the one that
the caller gives, or else the last one under any of its names in the file, or else the standard one. What
is loaded is that value, validated as if it were alone, so other settings have no say in it whatever they
hold (`load_independent`).
-/
import CodeReview.Proofs.Config.Names

namespace CodeReview.Config

variable {σ : Type} {name : String} {key value : Value} {entries inFile given : List (Value × Value)}

/-! ## The value that counts -/

/-- The key is the setting's own name or another name of it. -/
def isNameOf (name : String) (key : Value) : Bool :=
  key.sameKey (.string name) ||
    aliases.any fun (other, own) => own == name && key.sameKey (.string other)

/-- The entries of a file under any of the names of a setting, in their order. -/
def entriesFor (name : String) (inFile : List (Value × Value)) : List (Value × Value) :=
  inFile.filter fun (key, _) => isNameOf name key

/-- The value, unless it is null. -/
def unlessNull : Value → Option Value
  | .null => none
  | value => some value

/-- The value that a caller gives for a setting; null stands for none. -/
def override? (name : String) (given : List (Value × Value)) : Option Value :=
  (Value.lookup (.string name) given).bind unlessNull

/-- The value that counts for a setting. -/
def source (name : String) (inFile given : List (Value × Value)) : Value :=
  ((override? name given).or ((entriesFor name inFile).getLast?.map Prod.snd)).getD (standard.get name)

/-- What the validation leaves of the value of a setting that is given alone. -/
def validated (name : String) (value : Value) : Value :=
  (validate ⟨[(.string name, value)]⟩).1.get name

/-- The two say the same about a setting: the files under its names, and the callers under its own. -/
structure AgreeOn (name : String) (inFile given inFile' given' : List (Value × Value)) : Prop where
  file : entriesFor name inFile = entriesFor name inFile'
  caller : override? name given = override? name given'

theorem AgreeOn.source_eq {inFile' given' : List (Value × Value)}
    (h : AgreeOn name inFile given inFile' given') : source name inFile given = source name inFile' given' := by
  unfold source
  rw [h.file, h.caller]

/-! ## Names -/

theorem isNameOf_iff :
    isNameOf name key = true ↔ key = .string name ∨ ∃ other, (other, name) ∈ aliases ∧ key = .string other := by
  simp [isNameOf, Value.sameKey_string_iff]

theorem lookup_alias : ∀ p ∈ aliases, aliases.lookup p.1 = some p.2 := by decide

/-- A key is taken for a setting exactly if it is one of its names. -/
theorem sameKey_ownName (hown : IsOwn name) (key : Value) :
    (ownName key).sameKey (.string name) = isNameOf name key := by
  rw [Bool.eq_iff_iff, Value.sameKey_string_iff, isNameOf_iff]
  constructor
  · intro h
    unfold ownName at h
    split at h
    · next s =>
      split at h
      · next own hlookup =>
        obtain rfl := Value.string.inj h
        obtain ⟨before, after, halias, -⟩ := List.lookup_eq_some_iff.1 hlookup
        exact .inr ⟨s, halias ▸ List.mem_append_right _ List.mem_cons_self, rfl⟩
      · exact .inl h
    · exact .inl h
  · rintro (rfl | ⟨other, hmem, rfl⟩)
    · exact hown
    · unfold ownName
      dsimp only
      rw [lookup_alias _ hmem]

theorem exists_of_isSome_lookup (h : (Value.lookup key entries).isSome = true) :
    ∃ entry ∈ entries, entry.1.sameKey key = true := by
  by_contra hnone
  push Not at hnone
  rw [Value.lookup_eq_none fun entry hmem => Bool.eq_false_iff.2 (hnone entry hmem)] at h
  cases h

/-- The settings with standard values go by their own names, and none of them is the token. -/
theorem isOwn_of_standard (h : (standard.get? name).isSome = true) : IsOwn name ∧ name ≠ tokenKey := by
  have hkeys : ∀ entry ∈ standard.entries, ownName entry.1 = entry.1 ∧ entry.1 ≠ .string tokenKey := by
    simp [standard, ownName, aliases, tokenKey, List.lookup_cons]
  obtain ⟨entry, hmem, hkey⟩ := exists_of_isSome_lookup h
  rw [Value.sameKey_string_iff] at hkey
  obtain ⟨hown, htoken⟩ := hkeys entry hmem
  rw [hkey] at hown htoken
  exact ⟨hown, fun heq => htoken (congrArg Value.string heq)⟩

/-! ## Files and callers -/

/-- What a file gives a setting is the last of the entries under its names. -/
theorem given?_eq_getLast? (hown : IsOwn name) (inFile : List (Value × Value)) :
    given? name inFile = (entriesFor name inFile).getLast?.map Prod.snd := by
  induction inFile with
  | nil => rfl
  | cons entry rest ih =>
    obtain ⟨k, v⟩ := entry
    unfold given? entriesFor at ih ⊢
    rw [last?_ownEntries_cons, ih, sameKey_ownName hown, List.filter_cons]
    dsimp only
    split
    · rw [List.getLast?_cons]
      cases (rest.filter fun (key, _) => isNameOf name key).getLast? <;> rfl
    · rw [Option.or_none]

theorem last?_givenSettings_cons (key k v : Value) (rest : List (Value × Value)) :
    last? key (givenSettings ((k, v) :: rest)) =
      (last? key (givenSettings rest)).or (if k.sameKey key then unlessNull v else none) := by
  cases v with
  | null =>
    have hnone : (if k.sameKey key then unlessNull .null else none) = none := ite_self _
    rw [hnone, Option.or_none]
    rfl
  | _ => rfl

/-- What a caller gives a setting is under its own name, where no key comes twice. -/
theorem last?_givenSettings (hdistinct : Value.HasDistinctKeys given) :
    last? (.string name) (givenSettings given) = override? name given := by
  induction given with
  | nil => rfl
  | cons entry rest ih =>
    obtain ⟨k, v⟩ := entry
    obtain ⟨hfirst, hrest⟩ := List.pairwise_cons.1 hdistinct
    rw [last?_givenSettings_cons, ih hrest]
    unfold override?
    rw [Value.lookup]
    split
    · next hkey =>
      -- nothing behind the entry is under the same name
      have hnone : Value.lookup (.string name) rest = none := by
        refine Value.lookup_eq_none fun entry hmem => ?_
        rw [Value.sameKey_comm, ← Value.sameKey_congr hkey]
        exact hfirst entry hmem
      rw [hnone, Option.bind_none, Option.none_or, Option.bind_some]
    · rw [Option.or_none]

/-! ## What is loaded -/

theorem isSome_lookup_validate {c : Config} (h : (Value.lookup key c.entries).isSome = true) :
    (Value.lookup key (validate c).1.entries).isSome = true := by
  refine validate_keeps (P := fun d => (Value.lookup key d.entries).isSome = true) ?_ h
  rintro setting - step ⟨change, hchange⟩ d hd
  rw [hchange]
  cases change (d.1.get setting) with
  | none => exact hd
  | some value =>
    dsimp only
    rw [set, Value.lookup_insert_of_key]
    split
    · rfl
    · exact hd

/-- In what is put together from the standard settings, a file and a caller, a setting has the value that
counts for it. -/
theorem lookup_merged (inFile : List (Value × Value)) (hstandard : (standard.get? name).isSome = true)
    (hdistinct : Value.HasDistinctKeys given) :
    Value.lookup (.string name) ((withFile inFile).overlay (givenSettings given)).entries =
      some (source name inFile given) := by
  obtain ⟨value, hvalue⟩ := Option.isSome_iff_exists.1 hstandard
  have hget : standard.get name = value := by
    unfold get
    rw [hvalue, Option.getD_some]
  have hlookup : Value.lookup (.string name) standard.entries = some value := hvalue
  have hfile : last? (.string name) (ownEntries inFile) = (entriesFor name inFile).getLast?.map Prod.snd :=
    given?_eq_getLast? (isOwn_of_standard hstandard).1 inFile
  unfold withFile source
  rw [lookup_overlay, lookup_overlay, last?_givenSettings hdistinct, hfile, hlookup, hget]
  cases override? name given with
  | some v => rfl
  | none => cases (entriesFor name inFile).getLast? <;> rfl

/-- A setting is loaded as the value that counts for it, validated as if it were alone. -/
theorem get?_settled (hstandard : (standard.get? name).isSome = true)
    (hdistinct : Value.HasDistinctKeys given) (token : Option String) :
    (settled inFile given token).get? name = some (validated name (source name inFile given)) := by
  obtain ⟨-, htoken⟩ := isOwn_of_standard hstandard
  have hmerged := lookup_merged inFile hstandard hdistinct
  have halone : Value.lookup (.string name) [(.string name, source name inFile given)] =
      some (source name inFile given) := if_pos (Value.sameKey_string_iff.2 rfl)
  -- the validation cannot tell the whole from the setting alone
  have hvalidate : (validate ((withFile inFile).overlay (givenSettings given))).1.get? name =
      (validate ⟨[(.string name, source name inFile given)]⟩).1.get? name :=
    lookup_validate_congr (hmerged.trans halone.symm)
  have hsome : ((validate ⟨[(.string name, source name inFile given)]⟩).1.get? name).isSome = true :=
    isSome_lookup_validate (by rw [halone]; rfl)
  obtain ⟨v, hv⟩ := Option.isSome_iff_exists.1 hsome
  have hvalidated : validated name (source name inFile given) = v := by
    unfold validated get
    rw [hv, Option.getD_some]
  show ((validate ((withFile inFile).overlay (givenSettings given))).1.set tokenKey _).get? name = _
  rw [get?_set, if_neg (Ne.symm htoken), hvalidate, hv, hvalidated]

theorem get?_load {disk : Disk} {file : String} {s : σ} (hstandard : (standard.get? name).isSome = true)
    (hgiven : Value.HasDistinctKeys given) (hfile : (fileSettings disk file s).result = .ok inFile)
    (token : Option String) : ∃ c, (load disk file given token s).result = .ok c ∧
      c.get? name = some (validated name (source name inFile given)) := by
  refine ⟨settled inFile given token, ?_, get?_settled hstandard hgiven token⟩
  rw [load_result, hfile]
  rfl

/-- Whatever file a configuration is loaded from and whatever else its caller gives, a setting gets the
value that counts for it, validated as if it were alone. So any other file and caller that say the same
about the setting give the same value. -/
theorem load_independent {disk : Disk} {file : String} {token : Option String} {s : σ}
    (hstandard : (standard.get? name).isSome = true) (hgiven : Value.HasDistinctKeys given)
    (hfile : (fileSettings disk file s).result = .ok inFile) :
    ∃ c, (load disk file given token s).result = .ok c ∧
      c.get? name = some (validated name (source name inFile given)) ∧
      ∀ (disk' : Disk) (file' : String) (given' : List (Value × Value)) (token' : Option String) (s' : σ)
        (inFile' : List (Value × Value)), Value.HasDistinctKeys given' →
        (fileSettings disk' file' s').result = .ok inFile' → AgreeOn name inFile given inFile' given' →
        ∃ c', (load disk' file' given' token' s').result = .ok c' ∧ c'.get? name = c.get? name := by
  obtain ⟨c, hc, hname⟩ := get?_load hstandard hgiven hfile token
  refine ⟨c, hc, hname, fun disk' file' given' token' s' inFile' hgiven' hfile' hagree => ?_⟩
  obtain ⟨c', hc', hname'⟩ := get?_load hstandard hgiven' hfile' token'
  exact ⟨c', hc', by rw [hname', hname, hagree.source_eq]⟩

/-- A file with a setting of the wrong kind that calls another by two names, loaded alone and for a caller
that has a third setting, null for the second one and a token. -/
theorem load_independent_of_spellings :
    let text := "store: 5\nmax_file_size: 10\nmaxFileSize: 20"
    let disk : Disk := ⟨[("a.yml", .file (Text.encode text.toList))], []⟩
    let given : List (Value × Value) := [(.string "root", .string "src"), (.string "max_file_size", .null)]
    ∃ c c', (load disk "a.yml" [] none ()).result = .ok c ∧
      (load disk "a.yml" given (some "t") ()).result = .ok c' ∧
      c.get? "max_file_size" = some (.int 20) ∧ c'.get? "max_file_size" = c.get? "max_file_size" := by
  intro text disk given
  have hread : ((fileSettings disk "a.yml" ()).result.toOption.bind fun inFile =>
      (source "max_file_size" inFile []).amount?) = some (.int 20) := by decide +kernel
  obtain ⟨inFile, hfound, hsource⟩ := Option.bind_eq_some_iff.1 hread
  have hfile : (fileSettings disk "a.yml" ()).result = .ok inFile := by
    cases hresult : (fileSettings disk "a.yml" ()).result with
    | ok found =>
      rw [hresult] at hfound
      exact congrArg Except.ok (Option.some.inj hfound)
    | error fault =>
      rw [hresult] at hfound
      cases hfound
  have hgiven : Value.HasDistinctKeys given :=
    .cons (List.forall_mem_singleton.2 (by decide)) (List.pairwise_singleton _ _)
  have hagree : AgreeOn "max_file_size" inFile [] inFile given :=
    ⟨rfl, by simp [given, override?, Value.lookup, Value.sameKey, unlessNull]⟩
  obtain ⟨c, hc, hvalue, hothers⟩ :=
    @load_independent Unit "max_file_size" inFile [] disk "a.yml" none () (by decide) .nil hfile
  obtain ⟨c', hc', hsame⟩ := hothers disk "a.yml" given (some "t") () inFile hgiven hfile hagree
  have htwenty : source "max_file_size" inFile [] = .int 20 := by
    generalize source "max_file_size" inFile [] = v at hsource
    cases v with
    | int i =>
      injection hsource with hamount
      injection hamount with hi
      rw [hi]
    | bool b => cases b <;> cases hsource
    | _ => cases hsource
  refine ⟨c, c', hc, hc', ?_, hsame⟩
  rw [hvalue, htwenty]
  rfl

end CodeReview.Config
