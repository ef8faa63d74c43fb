/-
What each step of a history gives and which state it leaves, for any store: what was found in the store,
what the window lets pass of it, and what is written. A fault of the store is no fault of a step
(`result_load`, `result_save`).
-/
import CodeReview.History.Export
import CodeReview.Proofs.Result

namespace CodeReview.History

variable {σ : Type} (h : History σ) (s : σ)

/-! ## Reading -/

/-- The entries of what a store gave. A store that fails has none. -/
def entriesFound : Except Fault Json → Except Fault (List Kept)
  | .ok document => entriesOf document
  | .error _ => .ok []

theorem result_load : (h.load s).result = entriesFound (h.store.load s).result := by
  unfold load
  rw [Act.result_bind, Act.result_attempt]
  cases (h.store.load s).result with
  | ok document => rfl
  | error fault => rfl

theorem state_load : (h.load s).state = (h.store.load s).state := by
  unfold load
  rw [Act.state_bind, Act.result_attempt, Act.state_attempt]
  cases (h.store.load s).result with
  | ok document => rfl
  | error fault => rfl

theorem result_prune (entries : List Kept) :
    (h.prune entries s).result = h.cutoff.map fun limit => entries.filter (isAfter limit) := by
  unfold prune
  rw [Act.result_bind, Act.result_ofExcept]
  cases h.cutoff with
  | ok limit => rfl
  | error fault => rfl

theorem state_prune (entries : List Kept) : (h.prune entries s).state = s := by
  unfold prune
  rw [Act.state_bind, Act.result_ofExcept, Act.state_ofExcept]
  cases h.cutoff with
  | ok limit => rfl
  | error fault => rfl

/-- The entries that a history has in a state: those found that lie inside the window. -/
def entriesNow : Except Fault (List Kept) := do
  let entries ← entriesFound (h.store.load s).result
  let limit ← h.cutoff
  return entries.filter (isAfter limit)

/-- The reviews that a history has in a state, the newest first. -/
def reviewsNow : Except Fault (List Review) :=
  (h.entriesNow s).map fun entries => (entries.map Review.ofMembers).mergeSort isNewer

/-- What a history lists of a document. -/
theorem reviewsNow_of_documentOf {h : History σ} {s : σ} {items : List Json} {limit : Moment}
    (hload : (h.store.load s).result = .ok (Store.documentOf items)) (hcutoff : h.cutoff = .ok limit) :
    h.reviewsNow s =
      .ok ((((objects items).filter (isAfter limit)).map Review.ofMembers).mergeSort isNewer) := by
  unfold reviewsNow entriesNow
  rw [hload, hcutoff]
  rfl

/-- A history lists nothing of the empty document. -/
theorem reviewsNow_of_emptyDocument {h : History σ} {s : σ} {limit : Moment}
    (hload : (h.store.load s).result = .ok Store.emptyDocument) (hcutoff : h.cutoff = .ok limit) :
    h.reviewsNow s = .ok [] := by
  have hnone : (h.store.load s).result = .ok (Store.documentOf []) := hload
  rw [reviewsNow_of_documentOf hnone hcutoff]
  simp [objects]

theorem result_reviews : (h.reviews s).result = h.reviewsNow s := by
  unfold reviews reviewsNow entriesNow
  rw [Act.result_bind, result_load, state_load]
  cases entriesFound (h.store.load s).result with
  | error fault => rfl
  | ok entries =>
    show ((h.prune entries >>= fun kept => _) _ : Outcome σ _).result = _
    rw [Act.result_bind, result_prune]
    cases h.cutoff with
    | ok limit => rfl
    | error fault => rfl

theorem state_reviews : (h.reviews s).state = (h.store.load s).state := by
  unfold reviews
  rw [Act.state_bind, result_load, state_load]
  cases entriesFound (h.store.load s).result with
  | error fault => rfl
  | ok entries =>
    show ((h.prune entries >>= fun kept => _) _ : Outcome σ _).state = _
    rw [Act.state_bind, result_prune, state_prune]
    cases h.cutoff with
    | ok limit => rfl
    | error fault => rfl

theorem result_summarize :
    (h.summarize s).result = h.reviewsNow s >>= Timeline.ofReviews := by
  unfold summarize
  rw [Act.result_bind, result_reviews]
  cases h.reviewsNow s with
  | ok reviews => rfl
  | error fault => rfl

theorem state_summarize : (h.summarize s).state = (h.store.load s).state := by
  unfold summarize
  rw [Act.state_bind, state_reviews]
  cases (h.reviews s).result with
  | ok reviews => rfl
  | error fault => rfl

theorem result_exportCsv :
    (h.exportCsv s).result = do
      let rows ← (← h.reviewsNow s).mapM rowOf
      return String.ofList (Text.Csv.write (columns.map String.toList :: rows)) := by
  unfold exportCsv
  rw [Act.result_bind, result_reviews]
  cases h.reviewsNow s with
  | error fault => rfl
  | ok reviews =>
    show ((Act.ofExcept (reviews.mapM rowOf) >>= fun rows => _) _ : Outcome σ _).result = _
    rw [Act.result_bind, Act.result_ofExcept]
    show _ = (reviews.mapM rowOf >>= fun rows => _)
    cases reviews.mapM rowOf with
    | ok rows => rfl
    | error fault => rfl

theorem state_exportCsv : (h.exportCsv s).state = (h.store.load s).state := by
  unfold exportCsv
  rw [Act.state_bind, state_reviews]
  cases (h.reviews s).result with
  | error fault => rfl
  | ok reviews =>
    show ((Act.ofExcept (reviews.mapM rowOf) >>= fun rows => _) _ : Outcome σ _).state = _
    rw [Act.state_bind, Act.result_ofExcept, Act.state_ofExcept]
    cases reviews.mapM rowOf with
    | ok rows => rfl
    | error fault => rfl

theorem result_exportJson :
    (h.exportJson s).result =
      (h.summarize s).result.map fun timeline => String.ofList timeline.toJson.text := by
  unfold exportJson
  rw [Act.result_bind]
  cases (h.summarize s).result with
  | ok timeline => rfl
  | error fault => rfl

theorem state_exportJson : (h.exportJson s).state = (h.store.load s).state := by
  unfold exportJson
  rw [Act.state_bind, state_summarize]
  cases (h.summarize s).result with
  | ok timeline => rfl
  | error fault => rfl

/-! ## Writing -/

theorem result_save (entries : List Kept) : (h.save entries s).result = .ok () := by
  unfold save
  rw [Act.result_bind, Act.result_attempt]
  cases (h.store.save (Store.documentOf (entries.map .object)) s).result with
  | ok _ => rfl
  | error fault => rfl

theorem state_save (entries : List Kept) :
    (h.save entries s).state = (h.store.save (Store.documentOf (entries.map .object)) s).state := by
  unfold save
  rw [Act.state_bind, Act.result_attempt, Act.state_attempt]
  cases (h.store.save (Store.documentOf (entries.map .object)) s).result with
  | ok _ => rfl
  | error fault => rfl

/-- The entries that a history keeps with a new review: those inside the window, the new one first. -/
def entriesWith (review : Review) : Except Fault (List Kept) := do
  let entries ← entriesFound (h.store.load s).result
  let limit ← h.cutoff
  return (review.members :: entries).filter (isAfter limit)

theorem entriesWith_eq_ok_iff {review : Review} {kept : List Kept} :
    h.entriesWith s review = .ok kept ↔
      ∃ entries, entriesFound (h.store.load s).result = .ok entries ∧
        ∃ limit, h.cutoff = .ok limit ∧ (review.members :: entries).filter (isAfter limit) = kept := by
  unfold entriesWith
  rw [Result.bind_eq_ok_iff]
  refine exists_congr fun entries => and_congr_right fun _ => ?_
  rw [Result.bind_eq_ok_iff]
  exact exists_congr fun limit => and_congr_right fun _ =>
    ⟨fun h => Except.ok.inj h, fun h => congrArg Except.ok h⟩

/-- Where nothing was found, the new entry is the only one. -/
theorem entriesWith_of_none {review : Review} {limit : Moment}
    (hfound : entriesFound (h.store.load s).result = .ok [])
    (hcutoff : h.cutoff = .ok limit) (hafter : isAfter limit review.members = true) :
    h.entriesWith s review = .ok [review.members] :=
  (h.entriesWith_eq_ok_iff s).2 ⟨[], hfound, limit, hcutoff, List.filter_cons_of_pos hafter⟩

theorem result_record (scan : ScanResult) :
    (h.record scan s).result =
      if scan.excluded then .ok none
      else (h.entriesWith s (Review.ofScan h.now scan)).map fun _ => some (Review.ofScan h.now scan) := by
  unfold record entriesWith
  split
  · rfl
  rw [Act.result_bind, result_load, state_load]
  cases entriesFound (h.store.load s).result with
  | error fault => rfl
  | ok entries =>
    show ((h.prune _ >>= fun kept => _) _ : Outcome σ _).result = _
    rw [Act.result_bind, result_prune, state_prune]
    cases h.cutoff with
    | error fault => rfl
    | ok limit =>
      show ((h.save _ >>= fun _ => _) _ : Outcome σ _).result = _
      rw [Act.result_bind, result_save]
      rfl

/-- A scan that is left out changes nothing, and a fault comes before anything is written. -/
theorem state_record (scan : ScanResult) :
    (h.record scan s).state =
      if scan.excluded then s
      else match h.entriesWith s (Review.ofScan h.now scan) with
        | .ok entries =>
          (h.store.save (Store.documentOf (entries.map .object)) (h.store.load s).state).state
        | .error _ => (h.store.load s).state := by
  unfold record entriesWith
  split
  · rfl
  rw [Act.state_bind, result_load, state_load]
  cases entriesFound (h.store.load s).result with
  | error fault => rfl
  | ok entries =>
    show ((h.prune _ >>= fun kept => _) _ : Outcome σ _).state = _
    rw [Act.state_bind, result_prune, state_prune]
    cases h.cutoff with
    | error fault => rfl
    | ok limit =>
      show ((h.save _ >>= fun _ => _) _ : Outcome σ _).state = _
      rw [Act.state_bind, result_save, state_save]
      rfl

theorem result_clear :
    (h.clear s).result = .ok (match (h.store.clear s).result with
      | .ok _ => true
      | .error _ => false) := by
  unfold clear
  rw [Act.result_bind, Act.result_attempt]
  cases (h.store.clear s).result with
  | ok _ => rfl
  | error fault => rfl

theorem state_clear : (h.clear s).state = (h.store.clear s).state := by
  unfold clear
  rw [Act.state_bind, Act.result_attempt, Act.state_attempt]
  cases (h.store.clear s).result with
  | ok _ => rfl
  | error fault => rfl

end CodeReview.History
