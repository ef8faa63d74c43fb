/-
Histories in files with plain names on a disk with nothing on it. Such a file is ready for a history as long as a
directory takes the name of the draft (`isReady_bare`); else nothing is ever saved (`save_of_no_room`).
-/
import CodeReview.Proofs.Store.JsonFile

namespace CodeReview.JsonFile

variable {name : String} {names : List String}

/-- A name of ASCII characters that mean nothing in a path, and long enough to mean nothing itself. -/
structure IsPlainName (name : String) : Prop where
  long : 2 < name.toList.length
  short : name.toList.length ≤ Disk.maxPath
  plain : ∀ c ∈ name.toList, c.toNat < 0x80 ∧ c ≠ '/' ∧ c ≠ '\x00'

-- the characters are looked at one by one, not all characters there are
instance (name : String) : Decidable (IsPlainName name) :=
  decidable_of_iff (2 < name.toList.length ∧ name.toList.length ≤ Disk.maxPath ∧
      (name.toList.all fun c => c.toNat < 0x80 ∧ c ≠ '/' ∧ c ≠ '\x00') = true)
    ⟨fun ⟨long, short, plain⟩ => ⟨long, short, by simpa using plain⟩,
      fun h => ⟨h.long, h.short, by simpa using h.plain⟩⟩

theorem IsPlainName.ne (h : IsPlainName name) {other : String} (hother : other.toList.length ≤ 2) :
    name ≠ other := by
  rintro rfl
  exact absurd h.long (Nat.not_lt.2 hother)

theorem IsPlainName.isProper (h : IsPlainName name) : (Path.mk 0 [name]).IsProper :=
  List.forall_mem_singleton.2 ⟨h.ne (by decide), h.ne (by decide), fun hmem => (h.plain _ hmem).2.1 rfl⟩

theorem IsPlainName.append_tmp (h : IsPlainName name)
    (hshort : (name ++ ".tmp").toList.length ≤ Disk.maxPath) : IsPlainName (name ++ ".tmp") where
  long := by
    rw [String.toList_append, List.length_append]
    exact Nat.lt_add_right _ h.long
  short := hshort
  plain c hc := by
    rw [String.toList_append, List.mem_append] at hc
    rcases hc with hc | hc
    · exact h.plain c hc
    · exact (show IsPlainName ".tmp" by decide).plain c hc

/-- A plain name leads to a new file if a directory takes it. -/
theorem IsPlainName.place_iff (h : IsPlainName name) :
    (⟨[], []⟩ : Disk).place true (Path.mk 0 [name]).text = .ok names ↔
      name.toList.length ≤ Disk.maxName ∧ [name] = names := by
  have hparent : (⟨[], []⟩ : Disk).place false (Path.mk 0 []).text = .ok [] := by decide +kernel
  have htext : (Path.mk 0 [name]).text = name := by
    show "/".intercalate [name] = name
    exact String.intercalate_singleton
  have hsize : Text.encodedSize name.toList = name.toList.length :=
    Text.encodedSize_of_forall fun c hc => (h.plain c hc).1
  have htakes : Disk.Takes (Path.mk 0 [name]).text := by
    rw [htext]
    exact ⟨fun hmem => (h.plain _ hmem).2.2 rfl, hsize.trans_le h.short⟩
  rw [Disk.place_child_iff h.isProper (h.ne (by decide)) (h.ne (by decide)) hparent ⟨[], rfl⟩]
  show _ ∧ Text.encodedSize name.toList ≤ Disk.maxName ∧ [name] = names ↔ _
  rw [hsize]
  exact and_iff_right htakes

/-- A disk with nothing on it is ready for a history under a plain name, if there is room for that of the draft. -/
theorem isReady_bare (h : IsPlainName name) (hdraft : IsPlainName (name ++ ".tmp"))
    (hroom : (name ++ ".tmp").toList.length ≤ Disk.maxName) :
    IsReady ⟨0, [name]⟩ ⟨0, [name ++ ".tmp"]⟩ [] ⟨[], []⟩ where
  proper := Disk.isProper_directory_nil
  parent := show (⟨[], []⟩ : Disk).place true (Path.mk 0 []).text = .ok [] by decide +kernel
  directory := ⟨[], rfl⟩
  place := by
    rw [String.toList_append, List.length_append] at hroom
    exact h.place_iff.2 ⟨Nat.le_of_add_right_le hroom, rfl⟩
  draft := draft_eq_ok_iff.2 ⟨h.ne (by decide), rfl⟩
  draft_place := hdraft.place_iff.2 ⟨hroom, rfl⟩
  free := Disk.not_hasDirectory_of_at?_eq_none rfl
  draft_free := Disk.not_hasDirectory_of_at?_eq_none rfl

/-- Without room for the name of the draft nothing is saved. -/
theorem save_of_no_room (h : IsPlainName name) (hdraft : IsPlainName (name ++ ".tmp"))
    (hroom : Disk.maxName < (name ++ ".tmp").toList.length) (document : Json) :
    (save ⟨0, [name]⟩ document ⟨[], []⟩).result ≠ .ok () ∧
      (save ⟨0, [name]⟩ document ⟨[], []⟩).state = ⟨[], []⟩ := by
  have hmake : (Disk.makeDirectories (Path.mk 0 [name]).parent).Yields ⟨[], []⟩ () (· = ⟨[], []⟩) :=
    Disk.makeDirectories_of_isDirectory
      (show (⟨[], []⟩ : Disk).isDirectory (Path.mk 0 []).text = true by decide +kernel)
  have hdraftPath : draft ⟨0, [name]⟩ = .ok ⟨0, [name ++ ".tmp"]⟩ :=
    draft_eq_ok_iff.2 ⟨h.ne (by decide), rfl⟩
  unfold save
  -- the first thing that is written is the draft
  rw [hdraftPath, Act.bind_ok hmake.result, hmake.state, Act.ofExcept_ok, pure_bind]
  cases Json.write document with
  | error e => exact ⟨nofun, rfl⟩
  | ok text =>
    rw [Except.mapError, Act.ofExcept_ok, pure_bind]
    cases hwrite : (⟨[], []⟩ : Disk).withFile (Path.mk 0 [name ++ ".tmp"]).text (Text.encode text) with
    | ok d =>
      obtain ⟨names, hplace, -⟩ := Disk.withFile_eq_ok_iff.1 hwrite
      exact absurd (hdraft.place_iff.1 hplace).1 (Nat.not_le.2 hroom)
    | error fault =>
      have hfails : Disk.writeText (Path.mk 0 [name ++ ".tmp"]).text text ⟨[], []⟩ =
          ⟨.error fault, ⟨[], []⟩, [], []⟩ := by
        unfold Disk.writeText Disk.write
        exact Act.tryModify_of_error hwrite
      rw [Act.bind_error (congrArg Outcome.result hfails), hfails]
      exact ⟨nofun, rfl⟩

/-! ## A name without room for a draft -/

/-- A name that a directory takes, but not with the ending of a draft. -/
def longName : String := String.ofList (List.replicate 252 'h')

theorem toList_longName : longName.toList = List.replicate 252 'h' := String.toList_ofList

theorem isPlainName_longName : IsPlainName longName := by
  constructor
  · rw [toList_longName, List.length_replicate]
    decide
  · rw [toList_longName, List.length_replicate]
    decide
  · intro c hc
    rw [toList_longName] at hc
    rw [List.eq_of_mem_replicate hc]
    decide

theorem length_longName_append_tmp : (longName ++ ".tmp").toList.length = 256 := by
  rw [String.toList_append, List.length_append, toList_longName, List.length_replicate]
  rfl

/-- A file with the name can be written. -/
theorem isOk_withFile_longName :
    ((⟨[], []⟩ : Disk).withFile (Path.mk 0 [longName]).text []).isOk = true := by
  have hplace := isPlainName_longName.place_iff.2 ⟨by rw [toList_longName, List.length_replicate]; decide, rfl⟩
  rw [Disk.withFile_eq_ok_iff.2 ⟨_, hplace, Disk.not_hasDirectory_of_at?_eq_none rfl, rfl⟩]
  rfl

/-- No document is saved in the file, and the disk stays as it was. -/
theorem save_longName (document : Json) : (save ⟨0, [longName]⟩ document ⟨[], []⟩).result ≠ .ok () ∧
    (save ⟨0, [longName]⟩ document ⟨[], []⟩).state = ⟨[], []⟩ := by
  have hlength := length_longName_append_tmp
  refine save_of_no_room isPlainName_longName (isPlainName_longName.append_tmp ?_) ?_ document
  · rw [hlength]
    decide
  · rw [hlength]
    decide

end CodeReview.JsonFile
