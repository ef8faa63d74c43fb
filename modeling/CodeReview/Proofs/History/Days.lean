/-
The days of a history. Every review of a timeline falls on one day of the calendar in universal time,
whatever the offset of its timestamp (`Timeline.dayOf_eq_ok_iff`). The trend has a point for each of
these days, in the order of the calendar, and the point lies among the reviews of its day
(`History.summarize_byDay`).
-/
import CodeReview.Proofs.History.Order
import CodeReview.Proofs.Metrics.Scale
import CodeReview.Proofs.Time.DateOrder

namespace CodeReview

open Result

/-- If every entry of a list comes from something, the list does. -/
theorem exists_map_eq {α β : Type} {f : α → β} {p : α → Prop} {entries : List β}
    (h : ∀ b ∈ entries, ∃ a, p a ∧ f a = b) :
    ∃ sources : List α, sources.map f = entries ∧ ∀ a ∈ sources, p a := by
  induction entries with
  | nil => exact ⟨[], rfl, fun a ha => nomatch ha⟩
  | cons b entries ih =>
    obtain ⟨⟨a, ha, rfl⟩, hentries⟩ := List.forall_mem_cons.1 h
    obtain ⟨sources, rfl, hsources⟩ := ih hentries
    exact ⟨a :: sources, rfl, List.forall_mem_cons.2 ⟨ha, hsources⟩⟩

/-! ## The day and the score of a review -/

namespace Review

/-- The review was made on a date of the calendar in universal time. -/
def IsOn (r : Review) (d : Date) : Prop :=
  ∃ moment, momentOf? r.timestamp = some moment ∧ d.isValid = true ∧
    (d.ordinal : ℤ) = moment.instant / Moment.microsPerDay

/-- The issues and the metrics are no huge numbers. -/
structure IsModest (r : Review) : Prop where
  issueCount : |r.issueCount| < 2 ^ 40
  complexity : |r.metrics.complexity| < 2 ^ 40
  maintainability : |r.metrics.maintainability| < 2 ^ 40
  duplication : |r.metrics.duplication| < 2 ^ 40

variable {r : Review} {d : Date}

theorem IsOn.isValid (h : r.IsOn d) : d.isValid = true := by
  obtain ⟨-, -, hvalid, -⟩ := h
  exact hvalid

/-- A review was made on one day only. -/
theorem IsOn.eq {d' : Date} (h : r.IsOn d) (h' : r.IsOn d') : d = d' := by
  obtain ⟨moment, hmoment, hvalid, hplace⟩ := h
  obtain ⟨moment', hmoment', hvalid', hplace'⟩ := h'
  obtain rfl := Option.some.inj (hmoment.symm.trans hmoment')
  exact Date.eq_of_ordinal_eq hvalid hvalid' (Int.ofNat_inj.1 (hplace.trans hplace'.symm))

theorem IsModest.abs_score_lt (h : r.IsModest) {score : ℤ} (hscore : r.score = .ok score) :
    |score| < 2 ^ 52 := by
  obtain ⟨-, hc, hm, hd⟩ := h
  obtain ⟨hcLow, -⟩ := abs_lt.1 hc
  obtain ⟨hdLow, -⟩ := abs_lt.1 hd
  obtain ⟨hcomputed, hsum⟩ := Measure.qualityScore_eq_floor_of_le (n := 2 ^ 43)
    (c := r.metrics.complexity) (d := r.metrics.duplication) (by norm_num) (by omega)
    (hm.le.trans (by norm_num)) (by omega)
  obtain rfl := Except.ok.inj (hcomputed.symm.trans hscore)
  exact (Measure.abs_computedScore_le (by norm_num) hsum).trans_lt (by norm_num)

end Review

namespace Timeline

/-- The day of a review is written as the date on which it was made. -/
theorem dayOf_eq_ok_iff {r : Review} {day : String} :
    dayOf r = .ok day ↔ ∃ d, r.IsOn d ∧ String.ofList d.text = day := by
  unfold dayOf Review.IsOn
  cases Review.momentOf? r.timestamp with
  | none => exact iff_of_false (fun h => nomatch h) (fun ⟨_, ⟨_, h, _⟩, _⟩ => nomatch h)
  | some moment =>
    dsimp only
    rw [bind_eq_ok_iff]
    refine exists_congr fun d => ?_
    rw [Moment.utcDate_eq_ok_iff]
    constructor
    · rintro ⟨hplace, hday⟩
      exact ⟨⟨moment, rfl, hplace⟩, Except.ok.inj hday⟩
    · rintro ⟨⟨_, hmoment, hplace⟩, rfl⟩
      cases hmoment
      exact ⟨hplace, rfl⟩

/-! ## Samples -/

section Samples

variable {samples : List Sample} {timeline : Timeline} {date : String} {point : TrendPoint}

theorem mem_dates_iff : date ∈ dates samples ↔ ∃ sample ∈ samples, sample.date = date := by
  unfold dates
  rw [List.mem_mergeSort, List.mem_eraseDups, List.mem_map]

theorem pairwise_dates (samples : List Sample) : (dates samples).Pairwise (· < ·) := by
  have hsorted : (dates samples).Pairwise (· ≤ ·) := StableSort.pairwise_mergeSort id _
  have hdistinct : (dates samples).Nodup :=
    (List.mergeSort_perm _ _).nodup_iff.2 (nodup_eraseDups _)
  exact (hsorted.and hdistinct).imp fun ⟨hle, hne⟩ => lt_of_le_of_ne hle hne

theorem pointOf_eq_ok_iff : pointOf samples date = .ok point ↔
    averageOf ((samples.filter (·.date = date)).map (·.issues)) = .ok point.issues ∧
      averageOf ((samples.filter (·.date = date)).map (·.score)) = .ok point.score ∧
      point.date = date := by
  unfold pointOf
  dsimp only
  rw [bind_eq_ok_iff]
  constructor
  · rintro ⟨issues, hissues, hrest⟩
    obtain ⟨score, hscore, hpoint⟩ := bind_eq_ok_iff.1 hrest
    obtain rfl := Except.ok.inj hpoint
    exact ⟨hissues, hscore, rfl⟩
  · rintro ⟨hissues, hscore, rfl⟩
    exact ⟨_, hissues, bind_eq_ok_iff.2 ⟨_, hscore, rfl⟩⟩

/-- What a timeline says of its samples. -/
theorem ofSamples_spec (h : ofSamples samples = .ok timeline) :
    timeline.totalReviews = samples.length ∧
      timeline.totalIssues = (samples.map (·.issues)).sum ∧
      averageOf (samples.map (·.score)) = .ok timeline.averageScore ∧
      timeline.trend.map (·.date) = dates samples ∧
      ∀ point ∈ timeline.trend, pointOf samples point.date = .ok point := by
  obtain ⟨trend, htrend, hrest⟩ := bind_eq_ok_iff.1 h
  obtain ⟨average, haverage, htimeline⟩ := bind_eq_ok_iff.1 hrest
  obtain rfl := Except.ok.inj htimeline
  refine ⟨rfl, sumInt_eq_sum _, haverage, ?_, ?_⟩
  · exact map_eq_of_mapM (fun date point hpoint => (pointOf_eq_ok_iff.1 hpoint).2.2) htrend
  · intro point hpoint
    obtain ⟨date, -, hdate⟩ := exists_of_mem_mapM htrend hpoint
    rwa [(pointOf_eq_ok_iff.1 hdate).2.2]

/-- An average over samples lies among them. -/
theorem average_liesAmong {part : Sample → ℤ} {n : ℤ} (hsome : samples ≠ [])
    (hrange : ∀ sample ∈ samples, |part sample| < 2 ^ 52)
    (h : averageOf (samples.map part) = .ok n) :
    LiesAmong n {v | ∃ sample ∈ samples, part sample = v} := by
  have hparts : ∀ v ∈ samples.map part, |v| < 2 ^ 52 := by
    intro v hv
    obtain ⟨sample, hsample, rfl⟩ := List.mem_map.1 hv
    exact hrange sample hsample
  obtain ⟨n', hn', hamong⟩ := averageOf_liesAmong (by simpa using hsome) hparts
  obtain rfl := Except.ok.inj (h.symm.trans hn')
  simpa only [List.mem_map] using hamong

end Samples

/-! ## Reviews by day -/

/-- The timeline is that of the reviews by the days on which they were made. If the issues and the
metrics are no huge numbers, each point lies among the reviews of its day, and the average score among
those of all reviews. -/
structure IsByDay (timeline : Timeline) (reviews : List Review) : Prop where
  totalReviews : timeline.totalReviews = reviews.length
  totalIssues : timeline.totalIssues = (reviews.map (·.issueCount)).sum
  ascending : (timeline.trend.map (·.date)).Pairwise (· < ·)
  /-- Every review belongs to one day. -/
  day : ∀ r ∈ reviews, ∃! d, r.IsOn d
  days : ∃ days : List Date, timeline.trend.map (·.date) = days.map (fun d => String.ofList d.text) ∧
    days.Pairwise (·.ordinal < ·.ordinal) ∧ ∀ d, d ∈ days ↔ ∃ r ∈ reviews, r.IsOn d
  points : (∀ r ∈ reviews, r.IsModest) → ∀ point ∈ timeline.trend, ∃ d : Date,
    point.date = String.ofList d.text ∧
      LiesAmong point.issues {n | ∃ r ∈ reviews, r.IsOn d ∧ r.issueCount = n} ∧
      LiesAmong point.score {n | ∃ r ∈ reviews, r.IsOn d ∧ r.score = .ok n}
  average : (∀ r ∈ reviews, r.IsModest) → reviews ≠ [] →
    LiesAmong timeline.averageScore {n | ∃ r ∈ reviews, r.score = .ok n}

section Reviews

variable {reviews : List Review} {timeline : Timeline} {r : Review} {d : Date}

theorem exists_isOn_sampleOf (h : Returns (dayOf r)) :
    ∃ d, r.IsOn d ∧ String.ofList d.text = (sampleOf r).date :=
  dayOf_eq_ok_iff.1 (eq_ok_given h)

/-- The sample of a review tells the day of the review. -/
theorem sampleOf_date_eq_iff (h : Returns (dayOf r)) (hd : d.isValid = true) :
    (sampleOf r).date = String.ofList d.text ↔ r.IsOn d := by
  obtain ⟨d', hon, hdate⟩ := exists_isOn_sampleOf h
  rw [← hdate, String.ofList_inj]
  constructor
  · intro htext
    rwa [← Date.eq_of_text_eq hon.isValid hd htext]
  · intro hon'
    have hday : dayOf r = .ok (String.ofList d'.text) := dayOf_eq_ok_iff.2 ⟨d', hon, rfl⟩
    have hday' : dayOf r = .ok (String.ofList d.text) := dayOf_eq_ok_iff.2 ⟨d, hon', rfl⟩
    exact String.ofList_inj.1 (Except.ok.inj (hday.symm.trans hday'))

/-- The dates of the samples are the days of the reviews, in the order of the calendar. -/
theorem exists_days (h : ∀ r ∈ reviews, Returns (dayOf r)) :
    ∃ days : List Date, dates (reviews.map sampleOf) = days.map (fun d => String.ofList d.text) ∧
      days.Pairwise (·.ordinal < ·.ordinal) ∧ ∀ d, d ∈ days ↔ ∃ r ∈ reviews, r.IsOn d := by
  have hdate : ∀ date ∈ dates (reviews.map sampleOf),
      ∃ d : Date, (∃ r ∈ reviews, r.IsOn d) ∧ String.ofList d.text = date := by
    intro date hmem
    obtain ⟨sample, hsample, rfl⟩ := mem_dates_iff.1 hmem
    obtain ⟨r, hr, rfl⟩ := List.mem_map.1 hsample
    obtain ⟨d, hon, htext⟩ := exists_isOn_sampleOf (h r hr)
    exact ⟨d, ⟨r, hr, hon⟩, htext⟩
  -- each of the dates is that of a day, and the order of the texts is that of the days
  obtain ⟨days, hdays, hmade⟩ := exists_map_eq hdate
  refine ⟨days, hdays.symm, ?_, fun d => ⟨hmade d, ?_⟩⟩
  · have hascending := pairwise_dates (reviews.map sampleOf)
    rw [← hdays, List.pairwise_map] at hascending
    refine hascending.imp_of_mem fun {d d'} hd hd' hlt => ?_
    obtain ⟨_, -, hon⟩ := hmade d hd
    obtain ⟨_, -, hon'⟩ := hmade d' hd'
    rw [String.lt_iff_toList_lt, String.toList_ofList, String.toList_ofList] at hlt
    exact (Date.text_lt_text_iff hon.isValid hon'.isValid).1 hlt
  · rintro ⟨r, hr, hon⟩
    have hmem : String.ofList d.text ∈ dates (reviews.map sampleOf) :=
      mem_dates_iff.2 ⟨_, List.mem_map_of_mem hr, (sampleOf_date_eq_iff (h r hr) hon.isValid).2 hon⟩
    rw [← hdays] at hmem
    obtain ⟨d', hd', htext⟩ := List.mem_map.1 hmem
    obtain ⟨_, -, hon'⟩ := hmade d' hd'
    rwa [← Date.eq_of_text_eq hon'.isValid hon.isValid (String.ofList_inj.1 htext)]

/-- An average over the samples of a day lies among the reviews of the day. -/
theorem average_onDate {part : Sample → ℤ} {n : ℤ} (hdays : ∀ r ∈ reviews, Returns (dayOf r))
    (hrange : ∀ r ∈ reviews, |part (sampleOf r)| < 2 ^ 52) (hr : r ∈ reviews) (hon : r.IsOn d)
    (h : averageOf (((reviews.map sampleOf).filter (·.date = String.ofList d.text)).map part) = .ok n) :
    LiesAmong n {v | ∃ r ∈ reviews, r.IsOn d ∧ part (sampleOf r) = v} := by
  have hmem {r : Review} (hr : r ∈ reviews) :
      (sampleOf r).date = String.ofList d.text ↔ r.IsOn d :=
    sampleOf_date_eq_iff (hdays r hr) hon.isValid
  have hsome : (reviews.map sampleOf).filter (·.date = String.ofList d.text) ≠ [] := by
    refine List.ne_nil_of_mem (a := sampleOf r) (List.mem_filter.2 ⟨List.mem_map_of_mem hr, ?_⟩)
    exact decide_eq_true ((hmem hr).2 hon)
  refine (average_liesAmong hsome ?_ h).mono ?_
  · intro sample hsample
    obtain ⟨r, hr, rfl⟩ := List.mem_map.1 (List.mem_of_mem_filter hsample)
    exact hrange r hr
  · rintro v ⟨sample, hsample, rfl⟩
    obtain ⟨hsample, hdate⟩ := List.mem_filter.1 hsample
    obtain ⟨r, hr, rfl⟩ := List.mem_map.1 hsample
    exact ⟨r, hr, (hmem hr).1 (of_decide_eq_true hdate), rfl⟩

/-- The timeline of some reviews is that of their days. -/
theorem isByDay_of_ofReviews (h : ofReviews reviews = .ok timeline) : timeline.IsByDay reviews := by
  by_cases hsome : reviews = []
  · subst hsome
    obtain rfl := Except.ok.inj h
    exact ⟨rfl, rfl, .nil, fun _ hr => (nomatch hr), ⟨[], rfl, .nil, fun d => by simp⟩,
      fun _ _ hpoint => (nomatch hpoint), fun _ hsome => absurd rfl hsome⟩
  have hreviews := ((returns_ofReviews_iff reviews).1 ⟨timeline, h⟩).1
  have hscores : ∀ r ∈ reviews, Returns r.score := fun r hr =>
    (Review.returns_score_iff r).2 (hreviews r hr).2
  have hdays : ∀ r ∈ reviews, Returns (dayOf r) := fun r hr =>
    (returns_dayOf_iff r).2 (hreviews r hr).1
  have hscore {r : Review} (hr : r ∈ reviews) : r.score = .ok (sampleOf r).score :=
    eq_ok_given (hscores r hr)
  rw [ofReviews_eq_ofSamples hsome hscores hdays] at h
  obtain ⟨hcount, hissues, haverage, hdates, hpoints⟩ := ofSamples_spec h
  have hrange (hmodest : ∀ r ∈ reviews, r.IsModest) : ∀ r ∈ reviews, |(sampleOf r).score| < 2 ^ 52 :=
    fun r hr => (hmodest r hr).abs_score_lt (hscore hr)
  constructor
  case totalReviews => rw [hcount, List.length_map]
  case totalIssues =>
    rw [hissues, List.map_map]
    rfl
  case ascending =>
    rw [hdates]
    exact pairwise_dates _
  case day =>
    intro r hr
    obtain ⟨d, hon, -⟩ := exists_isOn_sampleOf (hdays r hr)
    exact ⟨d, hon, fun d' hon' => hon'.eq hon⟩
  case days =>
    rw [hdates]
    exact exists_days hdays
  case points =>
    intro hmodest point hpoint
    -- a point has a date, which is the day of some review
    have hdate : point.date ∈ dates (reviews.map sampleOf) := by
      rw [← hdates]
      exact List.mem_map_of_mem hpoint
    obtain ⟨sample, hsample, hsame⟩ := mem_dates_iff.1 hdate
    obtain ⟨r, hr, rfl⟩ := List.mem_map.1 hsample
    obtain ⟨d, hon, htext⟩ := exists_isOn_sampleOf (hdays r hr)
    obtain ⟨hissuesAverage, hscoreAverage, -⟩ := pointOf_eq_ok_iff.1 (hpoints point hpoint)
    rw [← hsame, ← htext] at hissuesAverage hscoreAverage
    refine ⟨d, (htext.trans hsame).symm, ?_, ?_⟩
    · refine average_onDate hdays (fun r hr => ?_) hr hon hissuesAverage
      exact (hmodest r hr).issueCount.trans (by norm_num)
    · refine (average_onDate hdays (hrange hmodest) hr hon hscoreAverage).mono ?_
      rintro v ⟨r, hr, hon, rfl⟩
      exact ⟨r, hr, hon, hscore hr⟩
  case average =>
    intro hmodest _
    have hsamples : ∀ sample ∈ reviews.map sampleOf, |sample.score| < 2 ^ 52 := by
      simpa only [List.forall_mem_map] using hrange hmodest
    refine (average_liesAmong (by simpa using hsome) hsamples haverage).mono ?_
    rintro v ⟨sample, hsample, rfl⟩
    obtain ⟨r, hr, rfl⟩ := List.mem_map.1 hsample
    exact ⟨r, hr, hscore hr⟩

end Reviews

end Timeline

/-! ## Summaries -/

namespace History

variable {σ : Type}

/-- A summary, whatever the store holds, is that of the listed reviews by the days on which they were
made. -/
theorem summarize_byDay (h : History σ) (s : σ) {timeline : Timeline}
    (hsummary : (h.summarize s).result = .ok timeline) :
    ∃ reviews, (h.reviews s).result = .ok reviews ∧ timeline.IsByDay reviews := by
  rw [result_summarize] at hsummary
  obtain ⟨reviews, hreviews, htimeline⟩ := bind_eq_ok_iff.1 hsummary
  exact ⟨reviews, by rw [result_reviews, hreviews], Timeline.isByDay_of_ofReviews htimeline⟩

/-- A review of the first hour of a day to the east of Greenwich is counted on the day before. -/
theorem summarize_byDay_of_offset :
    let memory : History Memory := ⟨Memory.store, .int 30, ⟨⟨2026, 1, 2⟩, 12, 0, 0, 0, some 0⟩⟩
    let entry (timestamp : String) (issues : ℤ) : Json :=
      .object [("timestamp", .string timestamp), ("issue_count", .int issues)]
    let stored : Memory := ⟨Store.documentOf [entry "2026-01-02T09:00:00" 7,
      entry "2026-01-02T00:30:00+01:00" 4, entry "2026-01-01T08:00:00Z" 1], false, false⟩
    let timeline : Timeline := ⟨3, 12, 60, [⟨"2026-01-01", 3, 60⟩, ⟨"2026-01-02", 7, 60⟩]⟩
    (memory.summarize stored).result = .ok timeline ∧
      ∃ reviews, (memory.reviews stored).result = .ok reviews ∧ timeline.IsByDay reviews := by
  intro memory entry stored timeline
  suffices hsummary : (memory.summarize stored).result = .ok timeline from
    ⟨hsummary, summarize_byDay memory stored hsummary⟩
  let review (timestamp : String) (issues : ℤ) : Review := ⟨.string timestamp, "", "", issues, [], {}⟩
  let late := review "2026-01-02T09:00:00" 7
  let night := review "2026-01-02T00:30:00+01:00" 4
  let early := review "2026-01-01T08:00:00Z" 1
  have hcutoff : memory.cutoff = .ok ⟨⟨2025, 12, 3⟩, 12, 0, 0, 0, some 0⟩ :=
    cutoff_of_earlier rfl (by decide +kernel) _
  have hkept : ((objects [entry "2026-01-02T09:00:00" 7, entry "2026-01-02T00:30:00+01:00" 4,
      entry "2026-01-01T08:00:00Z" 1]).filter (isAfter ⟨⟨2025, 12, 3⟩, 12, 0, 0, 0, some 0⟩)).map
      Review.ofMembers = [late, night, early] := by with_unfolding_all rfl
  have hnewest : [late, night, early].Pairwise (isNewer · ·) :=
    .cons (List.forall_mem_cons.2 ⟨by decide +kernel, List.forall_mem_singleton.2 (by decide +kernel)⟩)
      (.cons (List.forall_mem_singleton.2 (by decide +kernel)) (List.pairwise_singleton _ _))
  have hscores : [late, night, early].mapM Review.score = .ok [60, 60, 60] := by decide +kernel
  have hdays : [late, night, early].mapM Timeline.dayOf =
      .ok ["2026-01-02", "2026-01-01", "2026-01-01"] := by with_unfolding_all rfl
  let samples : List Timeline.Sample :=
    [⟨"2026-01-02", 7, 60⟩, ⟨"2026-01-01", 4, 60⟩, ⟨"2026-01-01", 1, 60⟩]
  have hdates : Timeline.dates samples = ["2026-01-01", "2026-01-02"] := by
    -- the samples come newest first, and their dates are put in order
    rw [Timeline.dates_perm (List.reverse_perm samples).symm]
    unfold Timeline.dates
    have hdistinct : (samples.reverse.map (·.date)).eraseDups = ["2026-01-01", "2026-01-02"] := by
      decide +kernel
    rw [hdistinct]
    exact List.mergeSort_of_pairwise (by decide +kernel)
  have hpoints : ["2026-01-01", "2026-01-02"].mapM (Timeline.pointOf samples) =
      .ok [⟨"2026-01-01", 3, 60⟩, ⟨"2026-01-02", 7, 60⟩] := by decide +kernel
  rw [result_summarize, reviewsNow_of_documentOf rfl hcutoff, hkept,
    List.mergeSort_of_pairwise hnewest, ok_bind]
  unfold Timeline.ofReviews
  rw [if_neg (by decide), hscores, ok_bind, hdays, ok_bind]
  show ((Timeline.dates samples).mapM (Timeline.pointOf samples) >>= _) = _
  rw [hdates, hpoints, ok_bind]
  decide +kernel

end History

end CodeReview
