/-
Settings and their names. A file may call a setting by its own name or by another, and the last of them
counts (`get_withFile`); a setting with one name only is given nothing behind it (`givenLater?_eq_none`).
Settings that are laid over those of a file stay where the file has them, so another name behind one of
them still counts (`given?_overlay`), and every other setting is loaded as before (`lookup_settled_congr`).
-/
import CodeReview.Proofs.Config.Loading
import CodeReview.Proofs.Config.Validation

namespace CodeReview.Config

variable {name other : String} {key value : Value} {entries inFile : List (Value × Value)}

/-! ## Names -/

/-- The name is a setting's own. -/
def IsOwn (name : String) : Prop := ownName (.string name) = .string name

/-- The entries under the settings' own names. -/
def ownEntries (entries : List (Value × Value)) : List (Value × Value) :=
  entries.map fun (key, value) => (ownName key, value)

/-- What a file gives a setting, whatever it calls it. -/
def given? (name : String) (entries : List (Value × Value)) : Option Value :=
  last? (.string name) (ownEntries entries)

/-- What a file gives a setting behind the entry under the setting's own name. -/
def givenLater? (name : String) : List (Value × Value) → Option Value
  | [] => none
  | (key, _) :: rest => if key.sameKey (.string name) then given? name rest else givenLater? name rest

theorem last?_ownEntries_cons (key k v : Value) (rest : List (Value × Value)) :
    last? key (ownEntries ((k, v) :: rest)) =
      (last? key (ownEntries rest)).or (if (ownName k).sameKey key then some v else none) := rfl

theorem last?_cons_of_isOwn (hown : IsOwn name) (key : Value) (rest : List (Value × Value)) :
    last? key (ownEntries ((.string name, value) :: rest)) =
      (last? key (ownEntries rest)).or (if (Value.string name).sameKey key then some value else none) := by
  rw [last?_ownEntries_cons, show ownName (.string name) = .string name from hown]

/-! ## Settings with one name only -/

/-- The setting has no other name. -/
def IsOnly (name : String) : Prop := name ∉ aliases.map Prod.snd

instance : Decidable (IsOnly name) := inferInstanceAs (Decidable (¬ _))

theorem eq_of_ownName (h : IsOnly name) (heq : ownName key = .string name) : key = .string name := by
  unfold ownName at heq
  split at heq
  · next s =>
    split at heq
    · next own hlookup =>
      obtain rfl := Value.string.inj heq
      obtain ⟨before, after, halias, -⟩ := List.lookup_eq_some_iff.1 hlookup
      refine absurd (List.mem_map.2 ⟨(s, own), ?_, rfl⟩) h
      rw [halias]
      exact List.mem_append_right _ List.mem_cons_self
    · exact heq
  · exact heq

theorem given?_eq_none (h : IsOnly name)
    (hnone : ∀ entry ∈ entries, (Value.string name).sameKey entry.1 = false) :
    given? name entries = none := by
  induction entries with
  | nil => rfl
  | cons entry rest ih =>
    obtain ⟨k, v⟩ := entry
    obtain ⟨hfirst, hrest⟩ := List.forall_mem_cons.1 hnone
    unfold given? at ih ⊢
    rw [last?_ownEntries_cons, ih hrest, Option.none_or, if_neg]
    rw [Value.sameKey_string_iff]
    intro heq
    obtain rfl := eq_of_ownName h heq
    rw [Value.sameKey_string_iff.2 rfl] at hfirst
    cases hfirst

/-- Where no key comes twice, a setting with one name only is given nothing behind it. -/
theorem givenLater?_eq_none (h : IsOnly name) (hdistinct : Value.HasDistinctKeys entries) :
    givenLater? name entries = none := by
  induction entries with
  | nil => rfl
  | cons entry rest ih =>
    obtain ⟨k, v⟩ := entry
    obtain ⟨hfirst, hrest⟩ := List.pairwise_cons.1 hdistinct
    unfold givenLater?
    split
    · next hkey =>
      -- behind the setting's own name there is neither that name again nor another one
      obtain rfl := Value.sameKey_string_iff.1 hkey
      exact given?_eq_none h hfirst
    · exact ih hrest

/-! ## Entries that are put in -/

/-- What is given to other settings stays. -/
theorem last?_insert_of_ne (hown : IsOwn name) (hne : (Value.string name).sameKey key = false) :
    last? key (ownEntries (Value.insert (.string name) value entries)) = last? key (ownEntries entries) := by
  induction entries with
  | nil =>
    rw [Value.insert, last?_cons_of_isOwn hown, hne]
    rfl
  | cons entry rest ih =>
    obtain ⟨k, v⟩ := entry
    unfold Value.insert
    split
    · next hkey =>
      rw [Value.sameKey_string_iff] at hkey
      subst hkey
      rw [last?_cons_of_isOwn hown, last?_cons_of_isOwn hown, hne]
      rfl
    · rw [last?_ownEntries_cons, last?_ownEntries_cons, ih]

/-- An entry that is put in counts unless the file gives the setting something behind it. -/
theorem given?_insert (hown : IsOwn name) :
    given? name (Value.insert (.string name) value entries) = (givenLater? name entries).or (some value) := by
  have hself : (Value.string name).sameKey (.string name) = true := Value.sameKey_string_iff.2 rfl
  induction entries with
  | nil =>
    unfold given?
    rw [Value.insert, last?_cons_of_isOwn hown, if_pos hself]
    rfl
  | cons entry rest ih =>
    obtain ⟨k, v⟩ := entry
    unfold given? at ih ⊢
    unfold Value.insert givenLater?
    split
    · next hkey =>
      -- the entry keeps its place, and what stands behind it comes after the new value
      rw [Value.sameKey_string_iff] at hkey
      subst hkey
      rw [last?_cons_of_isOwn hown, if_pos hself]
      rfl
    · rw [last?_ownEntries_cons, ih, Option.or_assoc, Option.some_or]

theorem givenLater?_insert_of_ne (hown : IsOwn other) (hne : other ≠ name) :
    givenLater? name (Value.insert (.string other) value entries) = givenLater? name entries := by
  have hkeys : (Value.string other).sameKey (.string name) = false := by
    rw [Bool.eq_false_iff, ne_eq, Value.sameKey_string_iff]
    exact fun h => hne (Value.string.inj h)
  induction entries with
  | nil => simp [Value.insert, givenLater?, hkeys]
  | cons entry rest ih =>
    obtain ⟨k, v⟩ := entry
    unfold Value.insert
    split
    · next hkey =>
      rw [Value.sameKey_string_iff] at hkey
      subst hkey
      rw [givenLater?, givenLater?, hkeys]
    · rw [givenLater?, givenLater?, ih]
      congr 1
      exact last?_insert_of_ne hown hkeys

/-! ## Settings laid over those of a file -/

/-- Settings as entries under their names. -/
def named (settings : List (String × Value)) : List (Value × Value) :=
  settings.map fun (name, value) => (.string name, value)

theorem overlay_named_cons (c : Config) (name : String) (value : Value) (settings : List (String × Value)) :
    c.overlay (named ((name, value) :: settings)) =
      (⟨Value.insert (.string name) value c.entries⟩ : Config).overlay (named settings) := rfl

variable {settings : List (String × Value)} {c : Config}

/-- A key under which none of the settings is given holds what the file gives it. -/
theorem last?_overlay_of_ne (hown : ∀ p ∈ settings, IsOwn p.1)
    (hne : ∀ p ∈ settings, (Value.string p.1).sameKey key = false) :
    last? key (ownEntries (c.overlay (named settings)).entries) = last? key (ownEntries c.entries) := by
  induction settings generalizing c with
  | nil => rfl
  | cons setting settings ih =>
    obtain ⟨hfirst, hown⟩ := List.forall_mem_cons.1 hown
    obtain ⟨hfirstNe, hne⟩ := List.forall_mem_cons.1 hne
    rw [overlay_named_cons, ih hown hne]
    exact last?_insert_of_ne hfirst hfirstNe

/-- One of the settings counts unless the file gives it something behind its own name. -/
theorem given?_overlay (hown : ∀ p ∈ settings, IsOwn p.1) (hnodup : (settings.map Prod.fst).Nodup)
    (hmem : (name, value) ∈ settings) :
    given? name (c.overlay (named settings)).entries = (givenLater? name c.entries).or (some value) := by
  induction settings generalizing c with
  | nil => cases hmem
  | cons setting settings ih =>
    obtain ⟨first, v⟩ := setting
    obtain ⟨hfirst, hrest⟩ := List.forall_mem_cons.1 hown
    obtain ⟨hnew, hdistinct⟩ := List.nodup_cons.1 hnodup
    rw [overlay_named_cons]
    rcases List.mem_cons.1 hmem with heq | hmem
    · -- the settings after this one have other names
      obtain ⟨rfl, rfl⟩ := Prod.mk.inj heq
      unfold given?
      rw [last?_overlay_of_ne hrest]
      · exact given?_insert hfirst
      · intro p hp
        rw [Bool.eq_false_iff, ne_eq, Value.sameKey_string_iff]
        exact fun h => hnew (List.mem_map.2 ⟨p, hp, Value.string.inj h⟩)
    · -- this one changes nothing behind the name of another
      rw [ih hrest hdistinct hmem]
      congr 1
      refine givenLater?_insert_of_ne hfirst fun heq => hnew ?_
      exact List.mem_map.2 ⟨_, hmem, heq.symm⟩

/-! ## What is loaded -/

/-- The standard configuration with the settings of a file laid over it. -/
def withFile (inFile : List (Value × Value)) : Config := standard.overlay (ownEntries inFile)

theorem settled_eq (inFile : List (Value × Value)) (token : Option String) :
    settled inFile [] token = (validate (withFile inFile)).1.set tokenKey (match token with
      | some token => .string token
      | none => .null) := rfl

theorem get_withFile (name : String) (inFile : List (Value × Value)) :
    (withFile inFile).get name = (given? name inFile).getD (standard.get name) := by
  unfold get get? withFile
  rw [lookup_overlay]
  unfold given?
  cases last? (.string name) (ownEntries inFile) <;> rfl

theorem get_settled (h : name ≠ tokenKey) (inFile : List (Value × Value)) (token : Option String) :
    (settled inFile [] token).get name = (validate (withFile inFile)).1.get name := by
  rw [settled_eq, get_set, if_neg (Ne.symm h)]

/-- What is loaded of a value that a file gives: the value if it can be used, and else the standard one. -/
def accepted (name : String) (usable : Value → Bool) (value : Value) : Value :=
  if usable value then value else standard.get name

/-- What a file gives a setting that is tested by itself is loaded if it passes the test. -/
theorem get_settled_of_test {usable : Value → Bool} (h : (name, usable) ∈ tests)
    (inFile : List (Value × Value)) (token : Option String) : (settled inFile [] token).get name =
      match given? name inFile with
      | some value => accepted name usable value
      | none => standard.get name := by
  have hname : ∀ p ∈ tests, p.1 ≠ tokenKey := by
    simp [tests, tokenKey]
  rw [get_settled (hname _ h), get_validate h, get_withFile]
  cases given? name inFile with
  | some value => rfl
  | none => exact ite_self _

/-- The gist is loaded as the file gives it. -/
theorem get_settled_gist (inFile : List (Value × Value)) (token : Option String) :
    (settled inFile [] token).get "gist_id" = (given? "gist_id" inFile).getD .null := by
  have hrules (c : Checked) : (checkRules c).1.get "gist_id" = c.1.get "gist_id" :=
    get_checkRules (by decide) c
  have hlinter (c : Checked) : (checkLinter c).1.get "gist_id" = c.1.get "gist_id" :=
    get_checkLinter (by decide) c
  have hstandard : standard.get "gist_id" = .null := by
    simp [get, get?, standard, Value.lookup, Value.sameKey]
  rw [get_settled (by decide), ← hstandard, ← get_withFile]
  unfold validate
  simp [get_repair, hrules, hlinter]

/-- The rules are loaded as the file gives them, as far as they are rules that are switched on or off. -/
theorem get_settled_rules (inFile : List (Value × Value)) (token : Option String)
    {rules : List (Value × Value)} (h : given? "rules" inFile = some (.map rules)) :
    (settled inFile [] token).get "rules" = .map (mergeRules rules).1 := by
  rw [get_settled (by decide), get_validate_rules, get_withFile, h]
  rfl

/-! ## What is loaded as before -/

/-- What is loaded under a key depends on nothing but what the file gives under it. -/
theorem lookup_settled_congr {inFile' : List (Value × Value)}
    (h : last? key (ownEntries inFile) = last? key (ownEntries inFile')) (token : Option String) :
    Value.lookup key (settled inFile [] token).entries =
      Value.lookup key (settled inFile' [] token).entries := by
  have hfile : Value.lookup key (withFile inFile).entries = Value.lookup key (withFile inFile').entries := by
    unfold withFile
    rw [lookup_overlay, lookup_overlay, h]
  rw [settled_eq, settled_eq, set, set, Value.lookup_insert_of_key, Value.lookup_insert_of_key,
    lookup_validate_congr hfile]

end CodeReview.Config
