/-
What a history makes of anything that a store may give it. A store that cannot be read, a document that
is no object and entries that make no sense are passed over; the operations fail exactly where the
reviews are a value that cannot be gone through, where a review falls on no day of the calendar in
universal time, or where a score or an average is out of the range of floating-point numbers
(`returns_iff`).
-/
import CodeReview.Proofs.History.Retention
import CodeReview.Proofs.Metrics.Score
import CodeReview.Proofs.Store.Entries

namespace CodeReview

open Double (limit largest)
open Result

/-! ## Documents -/

namespace History

/-- The value can be gone through item by item. -/
def isIterable : Json → Bool
  | .array _ | .object _ | .string _ => true
  | _ => false

/-- The document is no object whose reviews cannot be gone through. -/
def IsUsable (document : Json) : Prop :=
  ∀ reviews, document.get? "reviews" = some reviews → isIterable reviews = true

theorem entriesOf_object (members : List (String × Json)) : entriesOf (.object members) =
    match (Json.lookup "reviews" members).getD (.array []) with
    | .array reviews => .ok (objects reviews)
    | .object _ | .string _ => .ok []
    | _ => .error .wrongType := rfl

theorem returns_entriesOf_iff (document : Json) :
    Returns (entriesOf document) ↔ IsUsable document := by
  cases document with
  | object members =>
    have hget : (Json.object members).get? "reviews" = Json.lookup "reviews" members := rfl
    unfold IsUsable
    rw [entriesOf_object, hget]
    cases Json.lookup "reviews" members with
    | none => exact iff_of_true (returns_ok _) (fun _ h => nomatch h)
    | some reviews =>
      rw [Option.getD_some]
      simp only [Option.some.injEq, forall_eq']
      cases reviews with
      | array items => exact iff_of_true (returns_ok _) rfl
      | object members => exact iff_of_true (returns_ok _) rfl
      | string text => exact iff_of_true (returns_ok _) rfl
      | null => exact iff_of_false (not_returns_error _) Bool.false_ne_true
      | bool b => exact iff_of_false (not_returns_error _) Bool.false_ne_true
      | int i => exact iff_of_false (not_returns_error _) Bool.false_ne_true
      | float x => exact iff_of_false (not_returns_error _) Bool.false_ne_true
  | null => exact iff_of_true (returns_ok _) (fun _ h => nomatch h)
  | bool b => exact iff_of_true (returns_ok _) (fun _ h => nomatch h)
  | int i => exact iff_of_true (returns_ok _) (fun _ h => nomatch h)
  | float x => exact iff_of_true (returns_ok _) (fun _ h => nomatch h)
  | string text => exact iff_of_true (returns_ok _) (fun _ h => nomatch h)
  | array items => exact iff_of_true (returns_ok _) (fun _ h => nomatch h)

theorem returns_entriesFound_iff (loaded : Except Fault Json) :
    Returns (entriesFound loaded) ↔ ∀ document, loaded = .ok document → IsUsable document := by
  cases loaded with
  | error fault => exact iff_of_true (returns_ok _) (fun _ h => nomatch h)
  | ok document =>
    simp only [Except.ok.injEq, forall_eq']
    exact returns_entriesOf_iff document

end History

/-! ## Reviews -/

namespace Review

/-- The review falls on a day of the calendar in universal time. -/
def IsDated (r : Review) : Prop :=
  ∃ moment, momentOf? r.timestamp = some moment ∧ Moment.microsPerDay ≤ moment.instant ∧
    moment.instant < (Date.maxOrdinal + 1) * Moment.microsPerDay

/-- The metrics are numbers that a score can be computed of. -/
structure IsScorable (r : Review) : Prop where
  complexity : ((100 - r.metrics.complexity * 5 : ℤ) : ℚ) < limit
  maintainability : |(r.metrics.maintainability : ℚ)| < limit
  duplication : ((100 - r.metrics.duplication : ℤ) : ℚ) < limit

theorem returns_score_iff (r : Review) : Returns r.score ↔ r.IsScorable := by
  unfold score
  rw [Measure.returns_qualityScore_iff]
  exact ⟨fun ⟨h, h', h''⟩ => ⟨h, h', h''⟩, fun ⟨h, h', h''⟩ => ⟨h, h', h''⟩⟩

end Review

namespace Timeline

theorem returns_dayOf_iff (r : Review) : Returns (dayOf r) ↔ r.IsDated := by
  unfold dayOf Review.IsDated
  cases Review.momentOf? r.timestamp with
  | none => exact iff_of_false (not_returns_error _) (fun ⟨_, h, _⟩ => nomatch h)
  | some moment =>
    have hdate : Returns moment.utcDate ↔
        (Moment.ofMicros? moment.instant (some 0)).isSome = true := by
      unfold Moment.utcDate
      cases Moment.ofMicros? moment.instant (some 0) with
      | none => exact iff_of_false (not_returns_error _) Bool.false_ne_true
      | some m => exact iff_of_true (returns_ok _) rfl
    dsimp only
    rw [returns_bind_iff]
    constructor
    · rintro ⟨date, hok, -⟩
      exact ⟨moment, rfl, Moment.isSome_ofMicros?_iff.1 (hdate.1 ⟨date, hok⟩)⟩
    · rintro ⟨_, hmoment, hrange⟩
      cases hmoment
      obtain ⟨date, hok⟩ := hdate.2 (Moment.isSome_ofMicros?_iff.2 hrange)
      exact ⟨date, hok, returns_ok _⟩

theorem abs_scores_le {reviews : List Review} {scores : List ℤ}
    (h : reviews.mapM Review.score = .ok scores) : ∀ v ∈ scores, |(v : ℚ)| ≤ largest := by
  induction reviews generalizing scores with
  | nil =>
    cases h
    exact fun v hv => nomatch hv
  | cons r reviews ih =>
    obtain ⟨score, rest, hscore, hrest, rfl⟩ := mapM_cons_eq_ok_iff.1 h
    exact List.forall_mem_cons.2 ⟨Measure.abs_qualityScore_le hscore, ih hrest⟩

/-- The reviews of a day. -/
def onDay (date : String) (reviews : List Review) : List Review :=
  reviews.filter fun r => dayOf r = .ok date

/-- The parts of some reviews in the trend. -/
def samplesOf (reviews : List Review) (days : List String) (scores : List ℤ) : List Sample :=
  (reviews.zip (days.zip scores)).map fun (r, day, score) => ⟨day, r.issueCount, score⟩

/-- The samples of a day count the issues of its reviews, and their scores are in range. -/
theorem filter_samplesOf {reviews : List Review} {days : List String} {scores : List ℤ}
    (hdays : reviews.mapM dayOf = .ok days) (hscores : reviews.mapM Review.score = .ok scores)
    (date : String) :
    ((samplesOf reviews days scores).filter (·.date = date)).map Sample.issues =
        (onDay date reviews).map Review.issueCount ∧
      ∀ v ∈ ((samplesOf reviews days scores).filter (·.date = date)).map Sample.score,
        |(v : ℚ)| ≤ largest := by
  induction reviews generalizing days scores with
  | nil => exact ⟨rfl, fun v hv => nomatch hv⟩
  | cons r reviews ih =>
    obtain ⟨day, days, hday, hrestDays, rfl⟩ := mapM_cons_eq_ok_iff.1 hdays
    obtain ⟨score, scores, hscore, hrestScores, rfl⟩ := mapM_cons_eq_ok_iff.1 hscores
    obtain ⟨hissues, hrange⟩ := ih hrestDays hrestScores
    have hsamples : samplesOf (r :: reviews) (day :: days) (score :: scores) =
        ⟨day, r.issueCount, score⟩ :: samplesOf reviews days scores := rfl
    have honDay : onDay date (r :: reviews) =
        if day = date then r :: onDay date reviews else onDay date reviews := by
      unfold onDay
      rw [List.filter_cons, hday]
      simp only [Except.ok.injEq, decide_eq_true_eq]
    rw [hsamples, honDay, List.filter_cons]
    by_cases hdate : day = date
    · rw [if_pos hdate, if_pos (decide_eq_true hdate), List.map_cons, List.map_cons, List.map_cons,
        hissues]
      exact ⟨rfl, List.forall_mem_cons.2 ⟨Measure.abs_qualityScore_le hscore, hrange⟩⟩
    · rw [if_neg hdate, if_neg (by simpa using hdate)]
      exact ⟨hissues, hrange⟩

/-- A day's average of issues can be computed. -/
def IsCountable (reviews : List Review) (date : String) : Prop :=
  |(sumInt ((onDay date reviews).map Review.issueCount) / (onDay date reviews).length : ℚ)| < limit

theorem returns_pointOf_iff {reviews : List Review} {days : List String} {scores : List ℤ}
    (hdays : reviews.mapM dayOf = .ok days) (hscores : reviews.mapM Review.score = .ok scores)
    (date : String) :
    Returns (pointOf (samplesOf reviews days scores) date) ↔ IsCountable reviews date := by
  obtain ⟨hissues, hrange⟩ := filter_samplesOf hdays hscores date
  obtain ⟨score, hscore⟩ := returns_averageOf hrange
  have hpoint : pointOf (samplesOf reviews days scores) date = (do
      let issues ← averageOf ((onDay date reviews).map Review.issueCount)
      return ⟨date, issues, score⟩) := by
    rw [← hissues]
    unfold pointOf
    dsimp only
    congr 1
    funext issues
    rw [hscore]
    rfl
  have haverage := returns_averageOf_iff ((onDay date reviews).map Review.issueCount)
  rw [List.length_map] at haverage
  rw [hpoint, IsCountable, ← haverage, returns_bind_iff]
  exact ⟨fun ⟨issues, h, _⟩ => ⟨issues, h⟩, fun ⟨issues, h⟩ => ⟨issues, h, returns_ok _⟩⟩

theorem isCountable_of_onDay_eq_nil {reviews : List Review} {date : String}
    (h : onDay date reviews = []) : IsCountable reviews date := by
  unfold IsCountable
  rw [h]
  simpa [sumInt] using Double.limit_pos

theorem returns_trend_iff {reviews : List Review} {days : List String} {scores : List ℤ}
    (hdays : reviews.mapM dayOf = .ok days) (hscores : reviews.mapM Review.score = .ok scores) :
    Returns ((dates (samplesOf reviews days scores)).mapM (pointOf (samplesOf reviews days scores))) ↔
      ∀ date, IsCountable reviews date := by
  rw [returns_mapM_iff]
  simp only [returns_pointOf_iff hdays hscores]
  refine ⟨fun h date => ?_, fun h date _ => h date⟩
  by_cases hdate : date ∈ dates (samplesOf reviews days scores)
  · exact h date hdate
  · -- a day that is no date of a sample has no reviews
    refine isCountable_of_onDay_eq_nil (List.map_eq_nil_iff (f := Review.issueCount).1 ?_)
    rw [← (filter_samplesOf hdays hscores date).1, List.map_eq_nil_iff, List.filter_eq_nil_iff]
    intro sample hsample hsame
    refine hdate (List.mem_mergeSort.2 (List.mem_eraseDups.2 ?_))
    exact List.mem_map.2 ⟨sample, hsample, of_decide_eq_true hsame⟩

/-- A timeline can be made if every review has a day and a score, and every day an average. -/
theorem returns_ofReviews_iff (reviews : List Review) : Returns (ofReviews reviews) ↔
    (∀ r ∈ reviews, r.IsDated ∧ r.IsScorable) ∧ ∀ date, IsCountable reviews date := by
  unfold ofReviews
  split
  · next hempty =>
    rw [List.isEmpty_iff] at hempty
    subst hempty
    exact iff_of_true (returns_ok _)
      ⟨fun r hr => (nomatch hr), fun date => isCountable_of_onDay_eq_nil rfl⟩
  rw [returns_bind_iff]
  constructor
  · rintro ⟨scores, hscores, hrest⟩
    obtain ⟨days, hdays, hrest⟩ := returns_bind_iff.1 hrest
    obtain ⟨trend, htrend, -⟩ := returns_bind_iff.1 hrest
    have hscored := returns_mapM_iff.1 ⟨scores, hscores⟩
    have hdated := returns_mapM_iff.1 ⟨days, hdays⟩
    exact ⟨fun r hr => ⟨(returns_dayOf_iff r).1 (hdated r hr),
      (Review.returns_score_iff r).1 (hscored r hr)⟩,
      (returns_trend_iff hdays hscores).1 ⟨trend, htrend⟩⟩
  · rintro ⟨hreviews, hcountable⟩
    obtain ⟨scores, hscores⟩ := returns_mapM_iff.2 fun r hr =>
      (Review.returns_score_iff r).2 (hreviews r hr).2
    obtain ⟨days, hdays⟩ := returns_mapM_iff.2 fun r hr => (returns_dayOf_iff r).2 (hreviews r hr).1
    obtain ⟨trend, htrend⟩ := (returns_trend_iff hdays hscores).2 hcountable
    obtain ⟨average, haverage⟩ := returns_averageOf (abs_scores_le hscores)
    refine ⟨scores, hscores, returns_bind_iff.2 ⟨days, hdays, returns_bind_iff.2 ⟨trend, htrend, ?_⟩⟩⟩
    exact returns_bind_iff.2 ⟨average, haverage, returns_ok _⟩

end Timeline

/-! ## Operations -/

namespace History

variable {σ : Type} {store : Store σ} {now : Moment} {s : σ}

/-- From the year 2 on the calendar has a moment thirty days before. -/
theorem cutoff_thirty (hnow : now.Legible) (hyear : 2 ≤ now.date.year) (store : Store σ) :
    ∃ limit, (History.mk store (.int 30) now).cutoff = .ok limit := by
  have hordinal : 366 ≤ now.date.ordinal := by
    have hdate := hnow.date
    simp only [Date.isValid, Bool.and_eq_true, decide_eq_true_eq] at hdate
    have hcenturies : (now.date.year - 1) / 100 ≤ (now.date.year - 1) / 4 := by omega
    unfold Date.ordinal Date.daysBeforeYear
    dsimp only
    omega
  obtain ⟨limit, hcutoff, -⟩ := (reaches_iff store hnow).1
    ((reaches_int_iff hnow (show (0 : ℤ) < 30 by decide)).2 (by omega))
  exact ⟨limit, hcutoff⟩

theorem returns_entriesNow_iff {h : History σ} {limit : Moment} (hcutoff : h.cutoff = .ok limit) :
    Returns (h.entriesNow s) ↔ Returns (entriesFound (h.store.load s).result) := by
  unfold entriesNow
  rw [hcutoff, returns_bind_iff]
  exact ⟨fun ⟨entries, h, _⟩ => ⟨entries, h⟩, fun ⟨entries, h⟩ => ⟨entries, h, returns_ok _⟩⟩

theorem returns_rowOf_iff (r : Review) : Returns (rowOf r) ↔ r.IsDated := by
  unfold rowOf
  rw [returns_bind_iff, ← Timeline.returns_dayOf_iff]
  exact ⟨fun ⟨day, h, _⟩ => ⟨day, h⟩, fun ⟨day, h⟩ => ⟨day, h, returns_ok _⟩⟩

/-- Whatever a store gives or fails with, with a retention of thirty days the operations return exactly
if the document is usable and, for the exports and the summary, every listed review falls on a day of the
calendar and, for the summary, scores and daily averages are in the range of floating-point numbers. -/
theorem returns_iff (store : Store σ) (s : σ) (hnow : now.Legible) (hyear : 2 ≤ now.date.year) :
    let h : History σ := ⟨store, .int 30, now⟩
    let usable := ∀ document, (store.load s).result = .ok document → IsUsable document
    (∀ scan, Returns (h.record scan s).result ↔ scan.excluded = true ∨ usable) ∧
    (Returns (h.reviews s).result ↔ usable) ∧
    (Returns (h.exportCsv s).result ↔
      ∃ reviews, (h.reviews s).result = .ok reviews ∧ ∀ r ∈ reviews, r.IsDated) ∧
    (Returns (h.summarize s).result ↔ ∃ reviews, (h.reviews s).result = .ok reviews ∧
      (∀ r ∈ reviews, r.IsDated ∧ r.IsScorable) ∧ ∀ date, Timeline.IsCountable reviews date) ∧
    (Returns (h.exportJson s).result ↔ Returns (h.summarize s).result) := by
  intro h usable
  obtain ⟨limit, hcutoff⟩ := cutoff_thirty hnow hyear store
  have hfound : Returns (entriesFound (store.load s).result) ↔ usable :=
    returns_entriesFound_iff _
  refine ⟨fun scan => ?_, ?_, ?_, ?_, ?_⟩
  · rw [result_record]
    cases hexcluded : scan.excluded with
    | true => exact iff_of_true (returns_ok _) (.inl rfl)
    | false =>
      have hwith : Returns (h.entriesWith s (Review.ofScan h.now scan)) ↔ usable := by
        unfold entriesWith
        rw [hcutoff, returns_bind_iff, ← hfound]
        exact ⟨fun ⟨entries, h, _⟩ => ⟨entries, h⟩, fun ⟨entries, h⟩ => ⟨entries, h, returns_ok _⟩⟩
      simp only [Bool.false_eq_true, if_false, false_or]
      rw [returns_map_iff]
      exact hwith
  · rw [result_reviews, reviewsNow, returns_map_iff, returns_entriesNow_iff hcutoff]
    exact hfound
  · rw [result_exportCsv, result_reviews, returns_bind_iff]
    refine exists_congr fun reviews => and_congr_right fun _ => ?_
    rw [returns_bind_iff]
    simp only [← returns_rowOf_iff, ← returns_mapM_iff]
    exact ⟨fun ⟨rows, h, _⟩ => ⟨rows, h⟩, fun ⟨rows, h⟩ => ⟨rows, h, returns_ok _⟩⟩
  · rw [result_summarize, result_reviews, returns_bind_iff]
    simp only [Timeline.returns_ofReviews_iff]
  · rw [result_exportJson, returns_map_iff]

/-- The one entry of a document that is kept in memory is listed if it is inside the window. -/
theorem result_reviews_singleton (entry : Kept) {limit : Moment}
    (hcutoff : (History.mk Memory.store (.int 30) now).cutoff = .ok limit)
    (hafter : isAfter limit entry = true) :
    ((History.mk Memory.store (.int 30) now).reviews
      ⟨Store.documentOf [.object entry], false, false⟩).result = .ok [Review.ofMembers entry] := by
  rw [result_reviews_of_kept Memory.keeps (rfl : _ = (⟨Store.documentOf [.object entry], _, _⟩ : Memory))
    (entriesOf_documentOf [entry]) hcutoff, List.filter_cons_of_pos hafter]
  simp

/-- Nothing returns for a gist whose reviews are a number; there is no summary of a review whose
maintainability is too large, and no export of one dated in the last hour of the calendar to the west of
Greenwich. -/
theorem not_returns_of_malformed :
    let now : Moment := ⟨⟨2026, 1, 2⟩, 12, 0, 0, 0, some 0⟩
    let gist : History GistService := ⟨Gist.store (.string "g"), .int 30, now⟩
    let service : GistService := { content := some "\x7b\"reviews\": 5\x7d" }
    let memory : History Memory := ⟨Memory.store, .int 30, now⟩
    let large : Memory := ⟨Store.documentOf [.object [("timestamp", .string "2026-01-01T12:00:00Z"),
      ("metrics", .object [("maintainability", .int (10 ^ 400))])]], false, false⟩
    let late : Memory := ⟨Store.documentOf
      [.object [("timestamp", .string "9999-12-31T23:59:59-01:00")]], false, false⟩
    (¬ Returns (gist.record { file := "a.js" } service).result ∧
      ¬ Returns (gist.reviews service).result) ∧
    ¬ Returns (memory.summarize large).result ∧ ¬ Returns (memory.exportJson large).result ∧
    ¬ Returns (memory.exportCsv late).result := by
  intro now gist service memory large late
  have hnow : now.Legible :=
    ⟨by decide, by decide, by decide, by decide, by decide, 0, rfl, .inl rfl⟩
  have hcutoff : memory.cutoff = .ok ⟨⟨2025, 12, 3⟩, 12, 0, 0, 0, some 0⟩ :=
    cutoff_of_earlier rfl (by decide +kernel) _
  obtain ⟨hrecord, hreviews, -⟩ :=
    returns_iff (Gist.store (.string "g")) service hnow (by decide)
  obtain ⟨-, -, -, hsummarize, hexportJson⟩ := returns_iff Memory.store large hnow (by decide)
  obtain ⟨-, -, hexportCsv, -⟩ := returns_iff Memory.store late hnow (by decide)
  have hunusable : ¬ ∀ document,
      ((Gist.store (.string "g")).load service).result = .ok document → IsUsable document := by
    intro husable
    -- the text is read from its characters
    have htext : "\x7b\"reviews\": 5\x7d".toList =
        ['{', '"', 'r', 'e', 'v', 'i', 'e', 'w', 's', '"', ':', ' ', '5', '}'] := by decide +kernel
    have hload : ((Gist.store (.string "g")).load service).result =
        .ok (.object [("reviews", .int 5)]) := by
      refine (Gist.result_load_of_content _ rfl rfl (by decide +kernel)).trans ?_
      rw [Gist.documentOf, htext]
      rfl
    exact Bool.false_ne_true (husable _ hload (.int 5) rfl)
  have hlarge : ¬ Returns (memory.summarize large).result := by
    rw [hsummarize]
    rintro ⟨reviews, hlisted, hscorable, -⟩
    have hafter (metrics : Json) : isAfter ⟨⟨2025, 12, 3⟩, 12, 0, 0, 0, some 0⟩
        [("timestamp", .string "2026-01-01T12:00:00Z"), ("metrics", metrics)] = true := by with_unfolding_all rfl
    have hsingle := result_reviews_singleton _ hcutoff
      (hafter (.object [("maintainability", .int (10 ^ 400))]))
    rw [← Except.ok.inj (hsingle.symm.trans hlisted)] at hscorable
    have hrange := (hscorable _ (List.mem_singleton_self _)).2.maintainability
    revert hrange
    decide +kernel
  refine ⟨⟨?_, ?_⟩, hlarge, fun h => hlarge (hexportJson.1 h), ?_⟩
  · rw [hrecord]
    rintro (hexcluded | husable)
    · cases hexcluded
    · exact hunusable husable
  · rw [hreviews]
    exact hunusable
  · rw [hexportCsv]
    rintro ⟨reviews, hlisted, hdated⟩
    have hsingle := result_reviews_singleton [("timestamp", .string "9999-12-31T23:59:59-01:00")]
      hcutoff (by decide +kernel)
    rw [← Except.ok.inj (hsingle.symm.trans hlisted)] at hdated
    obtain ⟨moment, hmoment, -, hlast⟩ := hdated _ (List.mem_singleton_self _)
    have hread : Review.momentOf? (.string "9999-12-31T23:59:59-01:00") =
        some ⟨⟨9999, 12, 31⟩, 23, 59, 59, 0, some (-3600000000)⟩ := by decide +kernel
    rw [← Option.some.inj (hread.symm.trans hmoment)] at hlast
    revert hlast
    decide +kernel

end History

end CodeReview
