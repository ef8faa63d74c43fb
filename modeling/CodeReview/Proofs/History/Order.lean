/-
Timelines forget the order of the reviews. A timeline is made of samples, one for each review
(`ofReviews_eq_ofSamples`), and groups, sums and averages them in ways that come to the same in any order
(`ofSamples_perm`). What goes wrong is the same in any order too, since scores and days fail in one way
only. So documents that hold the same entries inside the window, in whatever order and among whatever
else, have the same summary (`summarize_eq_of_perm`).
-/
import CodeReview.Proofs.Distinct
import CodeReview.Proofs.History.Malformed
import CodeReview.Proofs.Metrics.Mean
import Mathlib.Data.String.Basic

namespace CodeReview

open Result

namespace Timeline

/-! ## Averages and sets -/

theorem averageOf_perm {values values' : List ℤ} (h : values.Perm values') :
    averageOf values = averageOf values' := by
  unfold averageOf
  rw [sumInt_perm h, h.length_eq]

/-! ## Samples -/

/-- The dates of samples are a set, written in order. -/
theorem dates_perm {samples samples' : List Sample} (h : samples.Perm samples') :
    dates samples = dates samples' := by
  have hperm : ((samples.map (·.date)).eraseDups).Perm ((samples'.map (·.date)).eraseDups) :=
    eraseDups_perm (h.map _)
  unfold dates
  have hsorted (l : List String) : (l.mergeSort fun a b => a ≤ b).Pairwise (· ≤ ·) :=
    StableSort.pairwise_mergeSort id l
  refine List.Perm.eq_of_pairwise (fun a b _ _ => le_antisymm) (hsorted _) (hsorted _) ?_
  exact (List.mergeSort_perm _ _).trans (hperm.trans (List.mergeSort_perm _ _).symm)

theorem pointOf_perm {samples samples' : List Sample} (h : samples.Perm samples') (date : String) :
    pointOf samples date = pointOf samples' date := by
  unfold pointOf
  dsimp only
  rw [averageOf_perm ((h.filter _).map _), averageOf_perm ((h.filter _).map _)]

/-- The timeline of some samples. -/
def ofSamples (samples : List Sample) : Except Fault Timeline := do
  let trend ← (dates samples).mapM (pointOf samples)
  return {
    totalReviews := samples.length
    totalIssues := sumInt (samples.map (·.issues))
    averageScore := ← averageOf (samples.map (·.score))
    trend }

theorem ofSamples_perm {samples samples' : List Sample} (h : samples.Perm samples') :
    ofSamples samples = ofSamples samples' := by
  have hpoints : pointOf samples = pointOf samples' := funext (pointOf_perm h)
  unfold ofSamples
  rw [dates_perm h, hpoints, h.length_eq, sumInt_perm (h.map _), averageOf_perm (h.map _)]

/-! ## Reviews -/

/-- The part in the trend of a review that has a day and a score. -/
def sampleOf (r : Review) : Sample := ⟨given (dayOf r), r.issueCount, given r.score⟩

theorem samplesOf_given (reviews : List Review) :
    samplesOf reviews (reviews.map fun r => given (dayOf r)) (reviews.map fun r => given r.score) =
      reviews.map sampleOf := by
  induction reviews with
  | nil => rfl
  | cons r reviews ih =>
    unfold samplesOf at ih ⊢
    rw [List.map_cons, List.map_cons, List.map_cons, List.zip_cons_cons, List.zip_cons_cons,
      List.map_cons, ih]
    rfl

theorem score_fault {r : Review} {fault : Fault} (h : r.score = .error fault) :
    fault = .outOfRange := Measure.qualityScore_fault h

/-- A day that is not found is out of the calendar, if there is a moment to find it for. -/
theorem dayOf_fault {r : Review} (hmoment : (Review.momentOf? r.timestamp).isSome = true)
    {fault : Fault} (h : dayOf r = .error fault) : fault = .outOfRange := by
  obtain ⟨moment, hmoment⟩ := Option.isSome_iff_exists.1 hmoment
  unfold dayOf at h
  rw [hmoment] at h
  dsimp only at h
  unfold Moment.utcDate at h
  cases hdate : Moment.ofMicros? moment.instant (some 0) with
  | none =>
    rw [hdate] at h
    exact (Except.error.inj h).symm
  | some m =>
    rw [hdate] at h
    cases h

/-- Reviews that all have a day and a score have the timeline of their samples. -/
theorem ofReviews_eq_ofSamples {reviews : List Review} (hsome : reviews ≠ [])
    (hscores : ∀ r ∈ reviews, Returns r.score) (hdays : ∀ r ∈ reviews, Returns (dayOf r)) :
    ofReviews reviews = ofSamples (reviews.map sampleOf) := by
  have hempty : reviews.isEmpty = false := by simpa using hsome
  have hsamples := samplesOf_given reviews
  unfold samplesOf at hsamples
  unfold ofReviews ofSamples
  rw [hempty, mapM_eq_ok_map hscores, mapM_eq_ok_map hdays, List.map_map, List.map_map,
    List.length_map, ← hsamples]
  rfl

/-- Otherwise they have none, and it does not show which of them is to blame. -/
theorem ofReviews_eq_error {reviews : List Review} (hsome : reviews ≠ [])
    (hmoments : ∀ r ∈ reviews, (Review.momentOf? r.timestamp).isSome = true)
    (h : ¬ ((∀ r ∈ reviews, Returns r.score) ∧ ∀ r ∈ reviews, Returns (dayOf r))) :
    ofReviews reviews = .error .outOfRange := by
  have hempty : reviews.isEmpty = false := by simpa using hsome
  unfold ofReviews
  rw [hempty]
  by_cases hscores : ∀ r ∈ reviews, Returns r.score
  · have hdays : ¬ ∀ r ∈ reviews, Returns (dayOf r) := fun hdays => h ⟨hscores, hdays⟩
    rw [mapM_eq_ok_map hscores, mapM_eq_error (fun r hr _ => dayOf_fault (hmoments r hr)) hdays]
    rfl
  · rw [mapM_eq_error (fun r _ _ => score_fault) hscores]
    rfl

/-- Reviews that have moments have the same timeline in any order. -/
theorem ofReviews_perm {reviews reviews' : List Review} (h : reviews.Perm reviews')
    (hmoments : ∀ r ∈ reviews, (Review.momentOf? r.timestamp).isSome = true) :
    ofReviews reviews = ofReviews reviews' := by
  by_cases hempty : reviews = []
  · subst hempty
    rw [h.nil_eq]
  · have hsome : reviews' ≠ [] := by
      rintro rfl
      exact hempty h.eq_nil
    have hall {p : Review → Prop} : (∀ r ∈ reviews, p r) ↔ ∀ r ∈ reviews', p r :=
      forall_congr' fun r => by rw [h.mem_iff]
    by_cases hreturns : (∀ r ∈ reviews, Returns r.score) ∧ ∀ r ∈ reviews, Returns (dayOf r)
    · rw [ofReviews_eq_ofSamples hempty hreturns.1 hreturns.2,
        ofReviews_eq_ofSamples hsome (hall.1 hreturns.1) (hall.1 hreturns.2),
        ofSamples_perm (h.map sampleOf)]
    · rw [ofReviews_eq_error hempty hmoments hreturns,
        ofReviews_eq_error hsome (hall.1 hmoments) fun hreturns' =>
          hreturns ⟨hall.2 hreturns'.1, hall.2 hreturns'.2⟩]

end Timeline

/-! ## Histories -/

namespace History

variable {σ τ : Type}

/-- Documents whose entries inside the window are the same in some order have the same summary and the
same export, or fail in the same way, whatever else they hold and wherever it stands. -/
theorem summarize_eq_of_perm (first : Store σ) (second : Store τ) (retention : Value) (now : Moment)
    {s : σ} {t : τ} {items items' : List Json}
    (hfirst : (first.load s).result = .ok (Store.documentOf items))
    (hsecond : (second.load t).result = .ok (Store.documentOf items'))
    (hsame : ∀ limit, (History.mk first retention now).cutoff = .ok limit →
      ((objects items).filter (isAfter limit)).Perm ((objects items').filter (isAfter limit))) :
    ((History.mk first retention now).summarize s).result =
        ((History.mk second retention now).summarize t).result ∧
      ((History.mk first retention now).exportJson s).result =
        ((History.mk second retention now).exportJson t).result := by
  have hsummarize : ((History.mk first retention now).summarize s).result =
      ((History.mk second retention now).summarize t).result := by
    rw [result_summarize, result_summarize]
    cases hcutoff : (History.mk first retention now).cutoff with
    | error fault =>
      have hcutoff' : (History.mk second retention now).cutoff = .error fault := hcutoff
      unfold reviewsNow entriesNow
      rw [hfirst, hsecond, hcutoff, hcutoff']
      rfl
    | ok limit =>
      have hcutoff' : (History.mk second retention now).cutoff = .ok limit := hcutoff
      rw [reviewsNow_of_documentOf (h := ⟨first, retention, now⟩) hfirst hcutoff,
        reviewsNow_of_documentOf (h := ⟨second, retention, now⟩) hsecond hcutoff', ok_bind, ok_bind]
      refine Timeline.ofReviews_perm ?_ fun r hr => ?_
      · refine (List.mergeSort_perm _ _).trans (.trans ?_ (List.mergeSort_perm _ _).symm)
        exact (hsame limit hcutoff).map _
      · obtain ⟨entry, hentry, rfl⟩ := List.mem_map.1 (List.mem_mergeSort.1 hr)
        rw [momentOf?_ofMembers]
        exact isSome_of_isAfter (List.mem_filter.1 hentry).2
  refine ⟨hsummarize, ?_⟩
  rw [result_exportJson, result_exportJson, hsummarize]

/-- Two reviews of one moment and one of the day before, in another order and among an expired one, one
without a date and a number. -/
theorem summarize_eq_of_shuffled :
    let memory : History Memory := ⟨Memory.store, .int 30, ⟨⟨2026, 1, 2⟩, 12, 0, 0, 0, some 0⟩⟩
    let entry (timestamp : String) (issues : ℤ) : Json :=
      .object [("timestamp", .string timestamp), ("issue_count", .int issues)]
    let first := entry "2026-01-02T08:00:00Z" 1
    let second := entry "2026-01-02T09:00:00+01:00" 4
    let third := entry "2026-01-01T08:00:00Z" 2
    let expired := entry "2025-11-01T08:00:00Z" 7
    let plain : Memory := ⟨Store.documentOf [first, second, third], false, false⟩
    let mixed : Memory :=
      ⟨Store.documentOf [third, expired, .int 5, second, entry "soon" 9, first], false, false⟩
    (memory.summarize plain).result = (memory.summarize mixed).result ∧
      (memory.exportJson plain).result = (memory.exportJson mixed).result := by
  intro memory entry first second third expired plain mixed
  have hcutoff : memory.cutoff = .ok ⟨⟨2025, 12, 3⟩, 12, 0, 0, 0, some 0⟩ :=
    cutoff_of_earlier rfl (by decide +kernel) _
  refine summarize_eq_of_perm Memory.store Memory.store (.int 30) memory.now
    (rfl : (Memory.store.load plain).result = _) (rfl : (Memory.store.load mixed).result = _) ?_
  intro limit hlimit
  rw [← Except.ok.inj (hcutoff.symm.trans hlimit)]
  have hplain : (objects [first, second, third]).filter
      (isAfter ⟨⟨2025, 12, 3⟩, 12, 0, 0, 0, some 0⟩) = objects [first, second, third] := by with_unfolding_all rfl
  have hmixed : (objects [third, expired, .int 5, second, entry "soon" 9, first]).filter
      (isAfter ⟨⟨2025, 12, 3⟩, 12, 0, 0, 0, some 0⟩) = (objects [first, second, third]).reverse := by
    with_unfolding_all rfl
  rw [hplain, hmixed]
  exact (List.reverse_perm _).symm

end History

end CodeReview
