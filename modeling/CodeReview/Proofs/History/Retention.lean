/-
Which retention windows work. Whatever a validated configuration says, a review that is recorded is kept
and listed exactly if the days it gives come to a span of a microsecond at least that leads back to a
moment of the calendar (`shows_iff`); a number of days that is no finite number, is too large or is
rounded to nothing does not (`not_shows_of_validated`).
-/
import CodeReview.Proofs.Config.Validation
import CodeReview.Proofs.History.Persistence
import CodeReview.Proofs.StableSort

namespace CodeReview.History

/-- The days come to a span of time that leads back from a moment to an earlier one of the calendar, on
the same clock. -/
def Reaches (retention : Value) (now : Moment) : Prop :=
  ∃ days span, retention.amount? = some days ∧ microsOfDays days = .ok span ∧ 0 < span ∧
    Moment.microsPerDay ≤ now.clockMicros - span

/-- A review is not dated after a moment. -/
def isPast (now : Moment) (r : Review) : Bool :=
  match Review.momentOf? r.timestamp with
  | some moment => moment.instant ≤ now.instant
  | none => false

/-- A scan is recorded, its review is in the document afterwards, and it is the first listed of those
that are not dated after the clock. -/
structure Shows {σ : Type} (h : History σ) (s : σ) (scan : ScanResult) : Prop where
  recorded : (h.record scan s).result = .ok (some (Review.ofScan h.now scan))
  persisted : ∃ document, (h.store.load (h.record scan s).state).result = .ok document ∧
    (Review.ofScan h.now scan).members ∈ entriesIn document
  listed : ∃ reviews, (h.reviews (h.record scan s).state).result = .ok reviews ∧
    (reviews.filter (isPast h.now)).head? = some (Review.ofScan h.now scan).asRead

/-! ## The cutoff -/

section Cutoff

variable {σ : Type} {store : Store σ} {retention : Value} {now : Moment}

theorem cutoff_eq_ok_iff {limit : Moment} :
    (History.mk store retention now).cutoff = .ok limit ↔
      ∃ days span, retention.amount? = some days ∧ microsOfDays days = .ok span ∧
        now.earlier span = .ok limit := by
  unfold cutoff
  cases retention.amount? with
  | none => simp
  | some days =>
    dsimp only
    rw [Result.bind_eq_ok_iff]
    simp

/-- The window begins before the moment of the clock exactly if its span leads back to a moment of the
calendar. -/
theorem reaches_iff (store : Store σ) (hnow : now.Legible) : Reaches retention now ↔
    ∃ limit, (History.mk store retention now).cutoff = .ok limit ∧ limit.instant < now.instant := by
  obtain ⟨-, hlast⟩ := Moment.clockMicros_bounds hnow.date hnow.hour hnow.minute hnow.second hnow.micro
  constructor
  · rintro ⟨days, span, hdays, hspan, hpositive, hfirst⟩
    have hsome : (Moment.ofMicros? (now.clockMicros - span) now.offset).isSome = true :=
      Moment.isSome_ofMicros?_iff.2 ⟨hfirst, by omega⟩
    obtain ⟨limit, hlimit⟩ := Option.isSome_iff_exists.1 hsome
    have hearlier : now.earlier span = .ok limit := by
      unfold Moment.earlier
      rw [hlimit]
    refine ⟨limit, cutoff_eq_ok_iff.2 ⟨days, span, hdays, hspan, hearlier⟩, ?_⟩
    rw [Moment.instant_earlier hearlier]
    omega
  · rintro ⟨limit, hcutoff, hbefore⟩
    obtain ⟨days, span, hdays, hspan, hearlier⟩ := cutoff_eq_ok_iff.1 hcutoff
    rw [Moment.instant_earlier hearlier] at hbefore
    refine ⟨days, span, hdays, hspan, by omega, ?_⟩
    unfold Moment.earlier at hearlier
    split at hearlier
    · next hsome => exact (Moment.isSome_ofMicros?_iff.1 (Option.isSome_of_eq_some hsome)).1
    · cases hearlier

/-- Whole days lead back to a moment of the calendar if there were so many before the date. -/
theorem reaches_int_iff (hnow : now.Legible) {n : Int} (hpositive : 0 < n) :
    Reaches (.int n) now ↔ n < now.date.ordinal := by
  obtain ⟨-, hlast⟩ := Date.ordinal_bounds hnow.date
  have htime : 0 ≤ now.timeOfDay ∧ now.timeOfDay < Moment.microsPerDay := by
    have := hnow.hour
    have := hnow.minute
    have := hnow.second
    have := hnow.micro
    unfold Moment.timeOfDay Moment.microsPerDay Moment.microsPerSecond
    omega
  have hdifference : (now.date.ordinal : Int) * Moment.microsPerDay + now.timeOfDay -
      n * Moment.microsPerDay = (now.date.ordinal - n) * Moment.microsPerDay + now.timeOfDay := by
    ring
  have hday : 0 < Moment.microsPerDay := by decide
  unfold Reaches Moment.clockMicros
  constructor
  · rintro ⟨days, span, hdays, hspan, -, hfirst⟩
    cases hdays
    rw [microsOfDays_int hspan, hdifference] at hfirst
    by_contra hafter
    have : (now.date.ordinal - n) * Moment.microsPerDay ≤ 0 :=
      Int.mul_nonpos_of_nonpos_of_nonneg (by omega) hday.le
    omega
  · intro hbefore
    have hspan : microsOfDays (.int n) = .ok (n * Moment.microsPerDay) := by
      unfold microsOfDays checkSpan
      dsimp only
      rw [Int.mul_ediv_cancel _ (by decide), if_neg]
      unfold maxSpanDays
      unfold Date.maxOrdinal at hlast
      simp only [Bool.or_eq_true, decide_eq_true_eq]
      omega
    refine ⟨.int n, _, rfl, hspan, Int.mul_pos hpositive hday, ?_⟩
    rw [hdifference]
    have : 1 * Moment.microsPerDay ≤ (now.date.ordinal - n) * Moment.microsPerDay :=
      Int.mul_le_mul_of_nonneg_right (by omega) hday.le
    omega

end Cutoff

/-! ## What is listed -/

theorem momentOf?_ofMembers (entry : Kept) :
    Review.momentOf? (Review.ofMembers entry).timestamp = momentOf? entry := by
  unfold Review.ofMembers momentOf?
  dsimp only
  cases Json.lookup "timestamp" entry with
  | some timestamp => rfl
  | none => rfl

/-- The instant of a review that has a moment. -/
def instantOf (r : Review) : Int := ((Review.momentOf? r.timestamp).map Moment.instant).getD 0

/-- Reviews that have moments are sorted by their instants, the latest first. -/
theorem mergeSort_isNewer {reviews : List Review}
    (h : ∀ r ∈ reviews, (Review.momentOf? r.timestamp).isSome = true) :
    reviews.mergeSort isNewer =
      reviews.mergeSort fun a b => OrderDual.toDual (instantOf a) ≤ OrderDual.toDual (instantOf b) := by
  have hsame : ∀ a ∈ reviews, ∀ b ∈ reviews, isNewer a b =
      decide (OrderDual.toDual (instantOf (id a)) ≤ OrderDual.toDual (instantOf (id b))) := by
    intro a ha b hb
    obtain ⟨m, hm⟩ := Option.isSome_iff_exists.1 (h a ha)
    obtain ⟨n, hn⟩ := Option.isSome_iff_exists.1 (h b hb)
    unfold isNewer instantOf
    simp [hm, hn]
  have hsorted := List.map_mergeSort
    (s := fun a b => decide (OrderDual.toDual (instantOf a) ≤ OrderDual.toDual (instantOf b))) hsame
  rwa [List.map_id, List.map_id] at hsorted

/-- The reviews of entries that have moments come the latest first, and of those of one instant the first
before the others. -/
theorem head?_filter_mergeSort {entry : Kept} {rest : List Kept} {now : Moment}
    (hentry : momentOf? entry = some now)
    (hrest : ∀ other ∈ rest, (momentOf? other).isSome = true) :
    ((((entry :: rest).map Review.ofMembers).mergeSort isNewer).filter (isPast now)).head? =
      some (Review.ofMembers entry) := by
  have hmoments : ∀ r ∈ (entry :: rest).map Review.ofMembers,
      (Review.momentOf? r.timestamp).isSome = true := by
    intro r hr
    obtain ⟨other, hother, rfl⟩ := List.mem_map.1 hr
    rw [momentOf?_ofMembers]
    rcases List.mem_cons.1 hother with rfl | hother
    · rw [hentry]
      rfl
    · exact hrest other hother
  have hfirst : instantOf (Review.ofMembers entry) = now.instant := by
    unfold instantOf
    rw [momentOf?_ofMembers, hentry]
    rfl
  rw [← StableSort.head?_filter_mergeSort (fun r => OrderDual.toDual (instantOf r))
    (Review.ofMembers entry) (rest.map Review.ofMembers), mergeSort_isNewer hmoments, List.map_cons]
  congr 1
  refine List.filter_congr fun r hr => ?_
  obtain ⟨m, hm⟩ := Option.isSome_iff_exists.1 (hmoments r ((List.mem_mergeSort).1 hr))
  unfold isPast
  rw [hfirst]
  simp [instantOf, hm]

/-! ## Recording over a store that does not fail -/

section Recording

variable {σ : Type} {kept : σ → Json → Prop} {h : History σ} {s : σ} {document : Json}
  {scan : ScanResult} (hstore : h.store.Keeps kept) (hkept : kept s document)

include hstore hkept

theorem entriesFound_of_kept :
    entriesFound (h.store.load s).result = entriesOf document := by
  rw [(hstore.load hkept).result]
  rfl

/-- A recorded review is kept, before what was found, as far as they are inside the window. -/
theorem kept_record {entries : List Kept} {limit : Moment} (hexcluded : scan.excluded = false)
    (hentries : entriesOf document = .ok entries) (hcutoff : h.cutoff = .ok limit) :
    (h.record scan s).result = .ok (some (Review.ofScan h.now scan)) ∧
      kept (h.record scan s).state (Store.documentOf
        ((((Review.ofScan h.now scan).members :: entries).filter (isAfter limit)).map .object)) := by
  have hwith : h.entriesWith s (Review.ofScan h.now scan) =
      .ok (((Review.ofScan h.now scan).members :: entries).filter (isAfter limit)) :=
    (entriesWith_eq_ok_iff h s).2
      ⟨entries, (entriesFound_of_kept hstore hkept).trans hentries, limit, hcutoff, rfl⟩
  rw [result_record, state_record, hexcluded, hwith]
  exact ⟨rfl, (hstore.save (hstore.load hkept).state _).state⟩

/-- The reviews of the entries that are kept, as far as they are inside the window. -/
theorem result_reviews_of_kept {entries : List Kept} {limit : Moment}
    (hentries : entriesOf document = .ok entries) (hcutoff : h.cutoff = .ok limit) :
    (h.reviews s).result =
      .ok (((entries.filter (isAfter limit)).map Review.ofMembers).mergeSort isNewer) := by
  rw [result_reviews]
  unfold reviewsNow entriesNow
  rw [entriesFound_of_kept hstore hkept, hentries, hcutoff]
  rfl

end Recording

theorem isSome_of_isAfter {limit : Moment} {entry : Kept} (h : isAfter limit entry = true) :
    (momentOf? entry).isSome = true := by
  unfold isAfter at h
  split at h
  · next moment hmoment =>
    rw [hmoment]
    rfl
  · cases h

theorem momentOf?_members {now : Moment} (hnow : now.Legible) (scan : ScanResult) :
    momentOf? (Review.ofScan now scan).members = some now :=
  Review.momentOf?_ofScan hnow scan

theorem isAfter_members_iff {now limit : Moment} (hnow : now.Legible) (scan : ScanResult) :
    isAfter limit (Review.ofScan now scan).members = true ↔ limit.instant < now.instant := by
  unfold isAfter
  rw [momentOf?_members hnow scan]
  exact decide_eq_true_iff

/-- Whatever configuration was validated, over a store that does not fail and holds any document, a
review is recorded, kept and listed first exactly if the document is a history and the days that the
configuration gives come to a span of time that leads back to an earlier moment of the calendar. Whole
days do if there were so many days before. -/
theorem shows_iff {σ : Type} {store : Store σ} {kept : σ → Json → Prop} {s : σ} {document : Json}
    (hstore : store.Keeps kept) (hkept : kept s document) {now : Moment} (hnow : now.Legible)
    {scan : ScanResult} (hexcluded : scan.excluded = false) (c : Config) {retention : Value}
    (hretention : (Config.validate c).1.get "retention_days" = retention) :
    ((History.mk store retention now).Shows s scan ↔
      Result.Returns (entriesOf document) ∧ Reaches retention now) ∧
    ∀ n, retention = .int n → (Reaches retention now ↔ n < now.date.ordinal) := by
  refine ⟨⟨fun hshows => ?_, fun ⟨⟨entries, hentries⟩, hreaches⟩ => ?_⟩, ?_⟩
  · have hrecorded := hshows.recorded
    rw [result_record, hexcluded] at hrecorded
    obtain ⟨_, hwith, -⟩ := Result.map_eq_ok_iff.1 hrecorded
    obtain ⟨entries, hfound, limit, hcutoff, -⟩ := (entriesWith_eq_ok_iff _ _).1 hwith
    have hentries : entriesOf document = .ok entries :=
      (entriesFound_of_kept (h := ⟨store, retention, now⟩) hstore hkept).symm.trans hfound
    refine ⟨⟨entries, hentries⟩, (reaches_iff store hnow).2 ⟨limit, hcutoff, ?_⟩⟩
    -- the review could not be in the document if it had expired
    obtain ⟨-, hnext⟩ :=
      kept_record (h := ⟨store, retention, now⟩) hstore hkept hexcluded hentries hcutoff
    obtain ⟨loaded, hload, hmem⟩ := hshows.persisted
    rw [(hstore.load hnext).result] at hload
    rw [← Except.ok.inj hload, entriesIn_documentOf] at hmem
    exact (isAfter_members_iff hnow scan).1 (List.mem_filter.1 hmem).2
  · obtain ⟨limit, hcutoff, hbefore⟩ := (reaches_iff store hnow).1 hreaches
    have hafter := (isAfter_members_iff hnow scan).2 hbefore
    obtain ⟨hrecorded, hnext⟩ :=
      kept_record (h := ⟨store, retention, now⟩) hstore hkept hexcluded hentries hcutoff
    rw [List.filter_cons_of_pos hafter] at hnext
    refine ⟨hrecorded, ⟨_, (hstore.load hnext).result, ?_⟩, ⟨_,
      result_reviews_of_kept hstore hnext (entriesOf_documentOf _) hcutoff, ?_⟩⟩
    · rw [entriesIn_documentOf]
      exact List.mem_cons_self ..
    · rw [List.filter_cons_of_pos hafter, ← Review.ofMembers_members]
      exact head?_filter_mergeSort (momentOf?_members hnow scan) fun other hother =>
        isSome_of_isAfter (List.mem_filter.1 hother).2
  · rintro n rfl
    have hpositive : Config.isPositive (.int n) = true := by
      rw [Config.get_validate_retention] at hretention
      split at hretention
      · next h => rwa [hretention] at h
      · cases hretention
        rfl
    exact reaches_int_iff hnow (of_decide_eq_true hpositive)

/-- Thirty days work; more days than the calendar has, numbers that are not finite, and less than half a
microsecond pass the validation and do not. -/
theorem not_shows_of_validated :
    let now : Moment := ⟨⟨2026, 1, 1⟩, 0, 0, 0, 0, some 0⟩
    let memory : Memory := ⟨Store.emptyDocument, false, false⟩
    let scan : ScanResult := { file := "a.js" }
    (History.mk Memory.store (.int 30) now).Shows memory scan ∧
    ∀ retention ∈ [Value.int 800000, .int 1000000000, .float .nan, .float (.infinity false),
        .float (.ofDecimal 1 (-12))],
      (Config.validate ⟨[(.string "retention_days", retention)]⟩).1.get "retention_days" =
          retention ∧
        ¬ (History.mk Memory.store retention now).Shows memory scan := by
  intro now memory scan
  have hnow : now.Legible :=
    ⟨by decide, by decide, by decide, by decide, by decide, 0, rfl, .inl rfl⟩
  have hempty : Result.Returns (entriesOf Store.emptyDocument) := ⟨[], rfl⟩
  have hvalidated {retention : Value} (hpositive : Config.isPositive retention = true) :=
    shows_iff Memory.keeps (rfl : memory = ⟨Store.emptyDocument, false, false⟩) hnow
      (show scan.excluded = false from rfl) _ (Config.get_validate_of_isPositive hpositive)
  have hordinal : now.date.ordinal = 739617 := by decide +kernel
  -- whole days are too many for the calendar
  have hlong {n : Int} (hpositive : 0 < n) (hlarge : 739617 ≤ n) : ¬ Reaches (.int n) now := by
    rw [(hvalidated (show Config.isPositive (.int n) = true from decide_eq_true hpositive)).2 n rfl, hordinal]
    exact not_lt.2 hlarge
  have hshort {x : Double} (hspan : ∀ span, microsOfDays (.float x) = .ok span → span ≤ 0) :
      ¬ Reaches (.float x) now := by
    rintro ⟨days, span, hdays, hmicros, hpositive, -⟩
    cases hdays
    exact absurd (hspan span hmicros) (not_le.2 hpositive)
  have hnan : ¬ Reaches (.float .nan) now := hshort fun span hspan => by cases hspan
  have hinfinite : ¬ Reaches (.float (.infinity false)) now := hshort fun span hspan => by cases hspan
  refine ⟨(hvalidated rfl).1.2 ⟨hempty, ?_⟩, ?_⟩
  · rw [(hvalidated rfl).2 30 rfl, hordinal]
    decide
  · simp only [List.forall_mem_cons, List.not_mem_nil, false_imp_iff, implies_true, and_true]
    refine ⟨⟨Config.get_validate_of_isPositive rfl, fun h => hlong (by decide) (by decide)
        ((hvalidated rfl).1.1 h).2⟩,
      ⟨Config.get_validate_of_isPositive rfl, fun h => hlong (by decide) (by decide)
        ((hvalidated rfl).1.1 h).2⟩,
      ⟨Config.get_validate_of_isPositive rfl, fun h => hnan ((hvalidated rfl).1.1 h).2⟩,
      ⟨Config.get_validate_of_isPositive rfl, fun h => hinfinite ((hvalidated rfl).1.1 h).2⟩,
      ?_⟩
    have hpositive : Config.isPositive (.float (.ofDecimal 1 (-12))) = true := by decide +kernel
    have hspan : microsOfDays (.float (.ofDecimal 1 (-12))) = .ok 0 := by decide +kernel
    exact ⟨Config.get_validate_of_isPositive hpositive, fun h =>
      hshort (fun span h => (Except.ok.inj (hspan.symm.trans h)).ge)
        ((hvalidated hpositive).1.1 h).2⟩

end CodeReview.History
