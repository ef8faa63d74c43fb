/-
The score of a review against the score that the scan reported. A review keeps three of the metrics, and
its score is computed of them again. For a text that was examined it is the reported one; a file that is
too large has metrics of zero, of which the score is not zero. So the two agree exactly if the file was
not too large, for the review as it was recorded and as it is listed later
(`score_eq_reported_iff`).
-/
import CodeReview.Proofs.History.Backends
import CodeReview.Proofs.History.Order
import CodeReview.Proofs.Scan.Admission

namespace CodeReview

/-! ## What a scan reports -/

/-- The score among the metrics of a text is the score of the other metrics. -/
theorem Metrics.qualityScore_ofText {text : List Char} {m : Metrics} (h : Metrics.ofText text = .ok m) :
    Measure.qualityScore (.int m.complexity) (.int m.maintainability) (.int m.duplication) =
      .ok m.qualityScore := by
  unfold Metrics.ofText at h
  obtain ⟨maintainability, -, h⟩ := Result.bind_eq_ok_iff.1 h
  obtain ⟨duplication, -, h⟩ := Result.bind_eq_ok_iff.1 h
  obtain ⟨score, hscore, h⟩ := Result.bind_eq_ok_iff.1 h
  cases h
  exact hscore

/-- Nothing measured is no bad score. -/
theorem Measure.qualityScore_zero : qualityScore (.int 0) (.int 0) (.int 0) = .ok 60 := by
  decide +kernel

namespace Scanner

variable {s : Scanner} {text file : String} {useLinter : Bool} {shell : Shell} {r : ScanResult}

theorem oversizedResult_metrics {size : Amount} (h : oversizedResult file size = .ok r) :
    r.oversized = true ∧ r.metrics = .zero := by
  unfold oversizedResult at h
  obtain ⟨large, -, h⟩ := Result.bind_eq_ok_iff.1 h
  obtain ⟨shown, -, h⟩ := Result.bind_eq_ok_iff.1 h
  cases h
  exact ⟨rfl, rfl⟩

theorem examine_metrics (h : (s.examine text file useLinter shell).result = .ok r) :
    r.oversized = false ∧ Metrics.ofText text.toList = .ok r.metrics := by
  unfold examine at h
  obtain ⟨issues, -, h⟩ := Act.result_bind_eq_ok.1 h
  obtain ⟨enabled, -, h⟩ := Act.result_bind_eq_ok.1 h
  obtain ⟨findings, -, h⟩ := Act.result_bind_eq_ok.1 h
  obtain ⟨metrics, hmetrics, h⟩ := Act.result_bind_eq_ok.1 h
  rw [Act.result_ofExcept] at hmetrics
  cases h
  exact ⟨rfl, hmetrics⟩

/-- A scan either leaves the file out, or finds it too large and measures nothing, or measures the
text. -/
theorem scan_metrics {size : Option Amount}
    (h : (s.scan text file size useLinter shell).result = .ok r) :
    r.excluded = true ∨ (r.oversized = true ∧ r.metrics = .zero) ∨
      (r.oversized = false ∧ Metrics.ofText text.toList = .ok r.metrics) := by
  have hsize : s.scan text file size useLinter =
      s.scan text file (some (size.getD (.int (Text.encodedSize text.toList)))) useLinter := rfl
  rw [hsize] at h
  cases hoff : s.isOff with
  | true =>
    rw [scan_result_of_isOff hoff] at h
    cases h
    exact .inl rfl
  | false =>
    rw [scan_result_of_not_isOff hoff] at h
    split at h
    · cases h
    · cases h
      exact .inl rfl
    · cases h
    · exact .inr (.inl (oversizedResult_metrics h))
    · exact .inr (.inr (examine_metrics h))

end Scanner

/-! ## The review of a scan -/

namespace Review

theorem score_asRead (review : Review) : review.asRead.score = review.score := rfl

/-- The score of the review of a scan is the reported one, or that of nothing measured. -/
theorem score_ofScan {s : Scanner} {text file : String} {size : Option Amount} {useLinter : Bool}
    {shell : Shell} {r : ScanResult} (h : (s.scan text file size useLinter shell).result = .ok r)
    (hexcluded : r.excluded = false) (now : Moment) :
    (ofScan now r).score = .ok (if r.oversized then 60 else r.metrics.qualityScore) ∧
      ((ofScan now r).score = .ok r.metrics.qualityScore ↔ r.oversized = false) := by
  have hscore : (ofScan now r).score = Measure.qualityScore (.int r.metrics.complexity)
      (.int r.metrics.maintainability) (.int r.metrics.duplication) := rfl
  rw [hscore]
  rcases Scanner.scan_metrics h with hout | ⟨hlarge, hzero⟩ | ⟨hlarge, hmetrics⟩
  · rw [hexcluded] at hout
    cases hout
  · rw [hlarge, hzero]
    refine ⟨Measure.qualityScore_zero, iff_of_false ?_ (by decide)⟩
    show ¬ Measure.qualityScore (.int 0) (.int 0) (.int 0) = .ok 0
    rw [Measure.qualityScore_zero]
    decide
  · rw [hlarge, Metrics.qualityScore_ofText hmetrics]
    exact ⟨rfl, iff_of_true rfl rfl⟩

end Review

namespace History

variable {σ : Type} {h : History σ} {s : σ} {scan : ScanResult}

theorem eq_ofScan_of_record {review : Review}
    (hrecord : (h.record scan s).result = .ok (some review)) :
    scan.excluded = false ∧ review = Review.ofScan h.now scan ∧
      ∃ entries, h.entriesWith s review = .ok entries := by
  rw [result_record] at hrecord
  cases hexcluded : scan.excluded with
  | true =>
    rw [hexcluded] at hrecord
    cases hrecord
  | false =>
    rw [hexcluded] at hrecord
    obtain ⟨entries, hentries, hsome⟩ := Result.map_eq_ok_iff.1 hrecord
    obtain rfl := Option.some.inj hsome
    exact ⟨rfl, rfl, entries, hentries⟩

/-! ## What is read back -/

/-- The store gives back the entries that are written when a scan is recorded. -/
def GivesBack (h : History σ) (s : σ) (scan : ScanResult) : Prop :=
  ∀ entries, h.entriesWith s (Review.ofScan h.now scan) = .ok entries →
    (h.store.load (h.record scan s).state).result = .ok (Store.documentWith entries)

/-- A store that never fails gives back whatever it was given. -/
theorem givesBack_of_keeps {kept : σ → Json → Prop} {document : Json} (hstore : h.store.Keeps kept)
    (hkept : kept s document) (hexcluded : scan.excluded = false) : h.GivesBack s scan := by
  intro entries hentries
  rw [state_record, hexcluded, hentries]
  exact (hstore.load (hstore.save (hstore.load hkept).state _).state).result

/-- A store that keeps a text gives back what can be read again. -/
theorem givesBack_of_keepsEntries {holds : σ → List Kept → Prop} {held : List Kept}
    (hstore : h.store.KeepsEntries holds) (hholds : holds s held) (hlegible : Store.AreLegible held)
    (hexcluded : scan.excluded = false) (hscan : scan.IsLegible) : h.GivesBack s scan := by
  intro entries hentries
  have hloaded := hstore.load hholds hlegible
  have hnext := areLegible_entriesWith hloaded.result hlegible hscan hentries
  rw [state_record, hexcluded, hentries]
  exact (hstore.load (hstore.save hloaded.state hnext).state hnext).result

/-- A review that was recorded is listed as long as the window begins before it. -/
theorem asRead_mem_reviews {review : Review} {limit : Moment} (hnow : h.now.Legible)
    (hrecord : (h.record scan s).result = .ok (some review)) (hback : h.GivesBack s scan)
    (hcutoff : h.cutoff = .ok limit) (hbefore : limit.instant < h.now.instant) {later limit' : Moment}
    (hcutoff' : (History.mk h.store h.retention later).cutoff = .ok limit')
    (hbefore' : limit'.instant < h.now.instant) :
    ∃ reviews, ((History.mk h.store h.retention later).reviews (h.record scan s).state).result =
      .ok reviews ∧ review.asRead ∈ reviews := by
  obtain ⟨-, rfl, entries, hentries⟩ := eq_ofScan_of_record hrecord
  have hload := hback entries hentries
  obtain ⟨found, -, limit, hlimit, rfl⟩ := (entriesWith_eq_ok_iff h s).1 hentries
  obtain rfl := Except.ok.inj (hcutoff.symm.trans hlimit)
  have hreviews := reviewsNow_of_documentOf (h := ⟨h.store, h.retention, later⟩) hload hcutoff'
  rw [objects_map_object] at hreviews
  refine ⟨_, (result_reviews _ _).trans hreviews, ?_⟩
  -- the review is inside the window when it is written and when it is read
  rw [List.mem_mergeSort, ← Review.ofMembers_members]
  refine List.mem_map_of_mem (List.mem_filter.2 ⟨List.mem_filter.2 ⟨List.mem_cons_self .., ?_⟩, ?_⟩)
  · exact (isAfter_members_iff hnow scan).2 hbefore
  · exact (isAfter_members_iff hnow scan).2 hbefore'

/-- Whatever is scanned with whatever configuration, and recorded: the score of the review is the reported
one exactly if the file was not too large, and so it is of the review that is listed, as long as it is
inside the window and the store gives back what it was given. -/
theorem score_eq_reported_iff {scanner : Scanner} {text file : String} {size : Option Amount}
    {useLinter : Bool} {shell : Shell} {r : ScanResult}
    (hscan : (scanner.scan text file size useLinter shell).result = .ok r) (h : History σ) (s : σ)
    {review : Review} (hrecord : (h.record r s).result = .ok (some review)) :
    (review.score = .ok (if r.oversized then 60 else r.metrics.qualityScore) ∧
      (review.score = .ok r.metrics.qualityScore ↔ r.oversized = false)) ∧
    (h.now.Legible → h.GivesBack s r → ∀ limit, h.cutoff = .ok limit → limit.instant < h.now.instant →
      ∀ later limit', (History.mk h.store h.retention later).cutoff = .ok limit' →
        limit'.instant < h.now.instant →
        ∃ reviews, ((History.mk h.store h.retention later).reviews (h.record r s).state).result =
            .ok reviews ∧
          ∃ listed ∈ reviews, listed = review.asRead ∧
            (listed.score = .ok r.metrics.qualityScore ↔ r.oversized = false)) := by
  obtain ⟨hexcluded, hreview, -⟩ := eq_ofScan_of_record hrecord
  have hscore := Review.score_ofScan hscan hexcluded h.now
  rw [← hreview] at hscore
  refine ⟨hscore, ?_⟩
  intro hnow hback limit hcutoff hbefore later limit' hcutoff' hbefore'
  obtain ⟨reviews, hreviews, hmem⟩ :=
    asRead_mem_reviews hnow hrecord hback hcutoff hbefore hcutoff' hbefore'
  refine ⟨reviews, hreviews, review.asRead, hmem, rfl, ?_⟩
  rw [Review.score_asRead]
  exact hscore.2

/-- A file of two bytes where one is the limit: the scan reports 0, and the timeline has 60. -/
theorem score_ne_reported_of_oversized :
    let scanner : Scanner := ⟨⟨[(.string "exclude_patterns", .list []),
      (.string "max_file_size", .float (.finite (mkRat 1 1024)))]⟩, ⟨[], [], []⟩, none, "/work"⟩
    let memory : History Memory := ⟨Memory.store, .int 30, ⟨⟨2026, 1, 1⟩, 0, 0, 0, 0, some 0⟩⟩
    let empty : Memory := ⟨Store.emptyDocument, false, false⟩
    ∃ r review, (scanner.scan "xx" "a.js" none false .bare).result = .ok r ∧ r.oversized = true ∧
      (memory.record r empty).result = .ok (some review) ∧
      review.score = .ok 60 ∧ review.score ≠ .ok r.metrics.qualityScore ∧
      ∃ reviews, (memory.reviews (memory.record r empty).state).result = .ok reviews ∧
        ∃ listed ∈ reviews, listed.score ≠ .ok r.metrics.qualityScore := by
  intro scanner memory empty
  have hscan : (scanner.scan "xx" "a.js" none false .bare).result =
      .ok { file := "a.js", issues := [⟨.int 1, .int 1,
        .string "File is too large (0KB). Skipping analysis.", "info", "file-too-large",
        "performance"⟩], oversized := true } := by
    have hout : scanner.leavesOut "a.js" = .ok false := rfl
    have hlarge : scanner.isOversized (.int 2) = .ok true := by decide +kernel
    have hround : (kilobytes (.int 2) >>= roundHalfUp) = .ok 0 := by decide +kernel
    obtain ⟨size, hsize, hround⟩ := Result.bind_eq_ok_iff.1 hround
    show (scanner.scan "xx" "a.js" (some (.int 2)) false .bare).result = _
    rw [Scanner.scan_result_of_not_isOff rfl, hout, hlarge]
    dsimp only
    unfold Scanner.oversizedResult
    rw [hsize, Result.ok_bind, hround]
    rfl
  have hcutoff : memory.cutoff = .ok ⟨⟨2025, 12, 2⟩, 0, 0, 0, 0, some 0⟩ :=
    cutoff_of_earlier rfl (by decide +kernel) _
  have hnow : memory.now.Legible :=
    ⟨by decide, by decide, by decide, by decide, by decide, 0, rfl, .inl rfl⟩
  have hempty : empty = ⟨Store.documentWith [], false, false⟩ := rfl
  generalize hr : ScanResult.mk "a.js" _ _ _ _ = r at hscan
  have hexcluded : r.excluded = false := by rw [← hr]
  have hoversized : r.oversized = true := by rw [← hr]
  obtain ⟨hrecord, -⟩ :=
    kept_record (h := memory) Memory.keeps hempty hexcluded (entriesOf_documentOf []) hcutoff
  obtain ⟨⟨hscore, hiff⟩, hlisted⟩ := score_eq_reported_iff hscan memory empty hrecord
  rw [hoversized] at hscore hiff hlisted
  refine ⟨r, _, hscan, hoversized, hrecord, hscore, fun h => Bool.noConfusion (hiff.1 h), ?_⟩
  obtain ⟨reviews, hreviews, listed, hmem, -, hiff'⟩ :=
    hlisted hnow (givesBack_of_keeps Memory.keeps hempty hexcluded) _ hcutoff (by decide) _ _ hcutoff
      (by decide)
  exact ⟨reviews, hreviews, listed, hmem, fun h => Bool.noConfusion (hiff'.1 h)⟩

end History

end CodeReview
