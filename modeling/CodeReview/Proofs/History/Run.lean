/-
Runs of a history: scans are recorded, reviews are asked for, all is cleared, and time goes by. A ledger
that forgets nothing but what is cleared gives the same answers (`serve_eq_ledger`): what a history no
longer keeps it would never have shown again.
-/
import CodeReview.Linter
import CodeReview.Proofs.History.Steps
import CodeReview.Proofs.History.Window

namespace CodeReview

/-! ## Runs -/

namespace History

/-- What is asked of a history, or its clock going on. -/
inductive Request where
  | record (scan : ScanResult)
  | clear
  | reviews
  | advance (now : Moment)

inductive Answer where
  | recorded (review : Option Review)
  | cleared (done : Bool)
  | listed (reviews : List Review)
  | advanced

namespace Request

/-- What the clock shows after a request. -/
def clock (now : Moment) : Request → Moment
  | .advance next => next
  | _ => now

/-- What the clock comes to show, in order. -/
def readings : List Request → List Moment
  | [] => []
  | .advance next :: rest => next :: readings rest
  | _ :: rest => readings rest

theorem readings_sublist (now : Moment) (request : Request) (rest : List Request) :
    List.Sublist (request.clock now :: readings rest) (now :: readings (request :: rest)) := by
  cases request with
  | advance next => exact List.sublist_cons_self ..
  | record scan => exact List.Sublist.refl _
  | clear => exact List.Sublist.refl _
  | reviews => exact List.Sublist.refl _

theorem le_clock {now : Moment} {request : Request} {rest : List Request}
    (h : (now :: readings (request :: rest)).Pairwise fun a b => a.instant ≤ b.instant) :
    now.instant ≤ (request.clock now).instant := by
  cases request with
  | advance next => exact (List.pairwise_cons.1 h).1 next (List.mem_cons_self ..)
  | record scan => exact le_refl _
  | clear => exact le_refl _
  | reviews => exact le_refl _

end Request

variable {σ : Type}

def answer (h : History σ) : Request → Act σ Answer
  | .record scan => return .recorded (← h.record scan)
  | .clear => return .cleared (← h.clear)
  | .reviews => return .listed (← h.reviews)
  | .advance _ => return .advanced

/-- The answers to some requests, one after the other. -/
def serve (store : Store σ) (retention : Value) : Moment → List Request → Act σ (List Answer)
  | _, [] => return []
  | now, request :: rest => do
    let answer ← (History.mk store retention now).answer request
    return answer :: (← serve store retention (request.clock now) rest)

end History

/-! ## Ledgers -/

/-- A scan that was recorded, and when. -/
structure Recording where
  moment : Moment
  scan : ScanResult

def Recording.review (r : Recording) : Review := Review.ofScan r.moment r.scan

/-- Everything that was recorded since the last clear, the latest first. -/
structure Ledger where
  recordings : List Recording
  now : Moment

namespace Ledger

open History

/-- The recordings after a moment. -/
def after (l : Ledger) (limit : Int) : List Recording :=
  l.recordings.filter fun r => limit < r.moment.instant

/-- The instant up to which recordings have expired. -/
def expiry (days : Int) (l : Ledger) : Int := l.now.instant - days * Moment.microsPerDay

def answer (days : Int) (l : Ledger) : Request → Answer
  | .record scan => .recorded (if scan.excluded then none else some (Review.ofScan l.now scan))
  | .clear => .cleared true
  | .reviews => .listed ((l.after (l.expiry days)).map fun r => r.review.asRead)
  | .advance _ => .advanced

def next (l : Ledger) : Request → Ledger
  | .record scan => if scan.excluded then l else { l with recordings := ⟨l.now, scan⟩ :: l.recordings }
  | .clear => { l with recordings := [] }
  | .reviews => l
  | .advance now => { l with now }

def serve (days : Int) : Ledger → List Request → List Answer
  | _, [] => []
  | l, request :: rest => l.answer days request :: serve days (l.next request) rest

theorem next_record (l : Ledger) (scan : ScanResult) :
    l.next (.record scan) =
      if scan.excluded then l else { l with recordings := ⟨l.now, scan⟩ :: l.recordings } := rfl

theorem now_next (l : Ledger) (request : Request) : (l.next request).now = request.clock l.now := by
  cases request with
  | record scan =>
    rw [next_record]
    split <;> rfl
  | clear => rfl
  | reviews => rfl
  | advance now => rfl

/-- The recordings were made at readings of a clock that never went back. -/
structure InOrder (l : Ledger) : Prop where
  legible : ∀ r ∈ l.recordings, r.moment.Legible
  past : ∀ r ∈ l.recordings, r.moment.instant ≤ l.now.instant
  ordered : l.recordings.Pairwise fun a b => b.moment.instant ≤ a.moment.instant

theorem InOrder.next {l : Ledger} (h : l.InOrder) {request : Request} (hnow : l.now.Legible)
    (hclock : l.now.instant ≤ (request.clock l.now).instant) : (l.next request).InOrder := by
  cases request with
  | record scan =>
    rw [next_record]
    split
    · exact h
    · exact ⟨List.forall_mem_cons.2 ⟨hnow, h.legible⟩,
        List.forall_mem_cons.2 ⟨le_refl _, h.past⟩, List.pairwise_cons.2 ⟨h.past, h.ordered⟩⟩
  | clear => exact ⟨by simp [Ledger.next], by simp [Ledger.next], by simp [Ledger.next]⟩
  | reviews => exact h
  | advance now => exact ⟨h.legible, fun r hr => le_trans (h.past r hr) hclock, h.ordered⟩

/-- What passes a later limit also passes an earlier one. -/
theorem filter_after (l : Ledger) {bound limit : Int} (h : bound ≤ limit) :
    (l.after bound).filter (fun r => limit < r.moment.instant) = l.after limit := by
  unfold after
  rw [List.filter_filter]
  refine List.filter_congr fun r _ => ?_
  rw [← Bool.decide_and, decide_eq_decide]
  omega

/-- Dropping what a later limit does not let pass, from a new recording and those kept before. -/
theorem filter_cons_after (l : Ledger) (r : Recording) {bound limit : Int} (h : bound ≤ limit) :
    (r :: l.after bound).filter (fun r => limit < r.moment.instant) =
      { l with recordings := r :: l.recordings : Ledger }.after limit := by
  rw [List.filter_cons, l.filter_after h]
  unfold after
  rw [List.filter_cons]

theorem InOrder.legible_after {l : Ledger} (h : l.InOrder) (limit : Int) :
    ∀ r ∈ l.after limit, r.moment.Legible :=
  fun r hr => h.legible r (List.mem_of_mem_filter hr)

theorem InOrder.ordered_after {l : Ledger} (h : l.InOrder) (limit : Int) :
    (l.after limit).Pairwise fun a b => b.moment.instant ≤ a.moment.instant :=
  h.ordered.sublist List.filter_sublist

end Ledger

/-! ## What is kept -/

namespace History

/-- The entry of a recording. -/
def entryOf (r : Recording) : Kept := r.review.members

theorem momentOf?_entryOf {r : Recording} (h : r.moment.Legible) :
    momentOf? (entryOf r) = some r.moment :=
  Review.momentOf?_ofScan h r.scan

/-- Pruning the entries of recordings keeps the recordings after the cutoff. -/
theorem filter_isAfter_entryOf (limit : Moment) {recordings : List Recording}
    (h : ∀ r ∈ recordings, r.moment.Legible) :
    (recordings.map entryOf).filter (isAfter limit) =
      (recordings.filter fun r => limit.instant < r.moment.instant).map entryOf := by
  rw [List.filter_map]
  refine congrArg (List.map entryOf) (List.filter_congr fun r hr => ?_)
  rw [Function.comp_apply, isAfter, momentOf?_entryOf (h r hr)]

theorem isNewer_asRead {a b : Recording} (ha : a.moment.Legible) (hb : b.moment.Legible) :
    isNewer a.review.asRead b.review.asRead = decide (b.moment.instant ≤ a.moment.instant) := by
  have hstampA : Review.momentOf? a.review.asRead.timestamp = some a.moment :=
    Review.momentOf?_ofScan ha a.scan
  have hstampB : Review.momentOf? b.review.asRead.timestamp = some b.moment :=
    Review.momentOf?_ofScan hb b.scan
  unfold isNewer
  rw [hstampA, hstampB]

/-- Reviews that are in order stay as they are when they are sorted. -/
theorem mergeSort_asRead {recordings : List Recording} (hlegible : ∀ r ∈ recordings, r.moment.Legible)
    (hordered : recordings.Pairwise fun a b => b.moment.instant ≤ a.moment.instant) :
    (recordings.map fun r => r.review.asRead).mergeSort isNewer =
      recordings.map fun r => r.review.asRead := by
  refine List.mergeSort_of_pairwise ?_
  rw [List.pairwise_map]
  refine hordered.imp_of_mem fun ha hb hle => ?_
  rw [isNewer_asRead (hlegible _ ha) (hlegible _ hb)]
  exact decide_eq_true hle

variable {σ : Type} {store : Store σ} {kept : σ → Json → Prop} {days : Int} {l : Ledger} {s : σ}

/-- The store holds the recordings of a ledger after an instant that has expired. -/
def Holds (kept : σ → Json → Prop) (days : Int) (l : Ledger) (s : σ) : Prop :=
  ∃ bound ≤ l.expiry days,
    kept s (Store.documentOf (((l.after bound).map entryOf).map .object))

section Step

variable (hstore : store.Keeps kept) (hnow : l.now.IsReading days) (horder : l.InOrder)
  (hholds : Holds kept days l s)

include hstore hnow horder hholds

theorem record_yields (scan : ScanResult) :
    ((History.mk store (.int days) l.now).record scan).Yields s
      (if scan.excluded then none else some (Review.ofScan l.now scan))
      (Holds kept days (l.next (.record scan))) := by
  rw [Ledger.next_record]
  unfold record
  split
  · exact .pure hholds
  obtain ⟨bound, hbound, hkept⟩ := hholds
  obtain ⟨limit, hcutoff, hlimit⟩ := cutoff_spec hnow store
  have hexpiry : limit.instant = l.expiry days := hlimit
  -- the new entry and those loaded, pruned, are those of the new ledger after the cutoff
  have hpruned : ((Review.ofScan l.now scan).members :: (l.after bound).map entryOf).filter
      (isAfter limit) = ({ l with recordings := ⟨l.now, scan⟩ :: l.recordings : Ledger }.after
        (l.expiry days)).map entryOf := by
    have hlegible : ∀ r ∈ (⟨l.now, scan⟩ : Recording) :: l.after bound, r.moment.Legible :=
      List.forall_mem_cons.2 ⟨hnow.legible, horder.legible_after bound⟩
    have hfilter := filter_isAfter_entryOf limit hlegible
    rw [hexpiry, l.filter_cons_after _ hbound] at hfilter
    exact hfilter
  refine .bind (load_yields hstore hkept (entriesOf_documentOf _)) fun s₁ hs₁ => ?_
  refine .bind (prune_yields hcutoff _) fun s₂ hs₂ => ?_
  rw [hpruned]
  subst hs₂
  refine .bind (save_yields hstore hs₁ _) fun s₃ hs₃ => ?_
  exact .pure ⟨l.expiry days, le_refl _, hs₃⟩

theorem reviews_yields :
    (History.mk store (.int days) l.now).reviews.Yields s
      ((l.after (l.expiry days)).map fun r => r.review.asRead) (Holds kept days l) := by
  obtain ⟨bound, hbound, hkept⟩ := hholds
  obtain ⟨limit, hcutoff, hlimit⟩ := cutoff_spec hnow store
  have hexpiry : limit.instant = l.expiry days := hlimit
  have hread : Review.ofMembers ∘ entryOf = fun r => r.review.asRead :=
    funext fun r => Review.ofMembers_members r.review
  unfold reviews
  refine .bind (load_yields hstore hkept (entriesOf_documentOf _)) fun s₁ hs₁ => ?_
  refine .bind (prune_yields hcutoff _) fun s₂ hs₂ => ?_
  subst hs₂
  rw [filter_isAfter_entryOf limit (horder.legible_after bound), hexpiry, l.filter_after hbound,
    List.map_map, hread,
    mergeSort_asRead (horder.legible_after _) (horder.ordered_after _)]
  exact .pure ⟨bound, hbound, hs₁⟩

/-- One request is answered from the ledger, and the store holds the next ledger. -/
theorem answer_yields {request : Request}
    (hclock : l.now.instant ≤ (request.clock l.now).instant) :
    ((History.mk store (.int days) l.now).answer request).Yields s (l.answer days request)
      (Holds kept days (l.next request)) := by
  cases request with
  | record scan => exact .bind (record_yields hstore hnow horder hholds scan) fun s' hs' => .pure hs'
  | clear =>
    obtain ⟨bound, hbound, hkept⟩ := hholds
    exact .bind (clear_yields hstore hkept) fun s' hs' => .pure ⟨bound, hbound, hs'⟩
  | reviews =>
    exact .bind (reviews_yields hstore hnow horder hholds) fun s' hs' => .pure hs'
  | advance now =>
    obtain ⟨bound, hbound, hkept⟩ := hholds
    refine .pure ⟨bound, ?_, hkept⟩
    have hlater : l.now.instant ≤ now.instant := hclock
    unfold Ledger.expiry Ledger.next at *
    dsimp only at *
    omega

end Step

/-! ## Whole runs -/

/-- Requests are answered from the ledger all along a run. -/
theorem serve_yields (hstore : store.Keeps kept) {requests : List Request}
    (hreadings : ∀ m ∈ l.now :: Request.readings requests, m.IsReading days)
    (hclock : (l.now :: Request.readings requests).Pairwise fun a b => a.instant ≤ b.instant)
    (horder : l.InOrder) (hholds : Holds kept days l s) :
    (serve store (.int days) l.now requests).Yields s (l.serve days requests) fun _ => True := by
  induction requests generalizing l s with
  | nil => exact .pure trivial
  | cons request rest ih =>
    have hnow : l.now.IsReading days := hreadings _ (List.mem_cons_self ..)
    have hlater := Request.le_clock hclock
    have hsublist := Request.readings_sublist l.now request rest
    refine .bind (answer_yields hstore hnow horder hholds hlater) fun s' hs' => ?_
    refine .bind (P := fun _ => True) ?_ fun s'' _ => .pure trivial
    rw [← Ledger.now_next] at hsublist ⊢
    exact ih (fun m hm => hreadings m (hsublist.subset hm)) (hclock.sublist hsublist)
      (horder.next hnow.legible hlater) hs'

theorem result_serve_of_empty (hstore : store.Keeps kept) (hempty : kept s Store.emptyDocument)
    {now : Moment} {requests : List Request}
    (hreadings : ∀ m ∈ now :: Request.readings requests, m.IsReading days)
    (hclock : (now :: Request.readings requests).Pairwise fun a b => a.instant ≤ b.instant) :
    (serve store (.int days) now requests s).result = .ok (Ledger.serve days ⟨[], now⟩ requests) := by
  have horder : (Ledger.mk [] now).InOrder := ⟨by simp, by simp, by simp⟩
  have hholds : Holds kept days ⟨[], now⟩ s := ⟨_, le_refl _, hempty⟩
  exact (serve_yields hstore hreadings hclock horder hholds).result

/-- A history over a store that starts empty and keeps what it is given answers as the ledger does
that forgets nothing but what is cleared, if its clock never goes back. The reviews that it lists are
those that it gave when they were recorded, but for places and messages of issues that are no integers
and texts. -/
theorem serve_eq_ledger (hstore : store.Keeps kept) (hempty : kept s Store.emptyDocument)
    {now : Moment} {requests : List Request}
    (hreadings : ∀ m ∈ now :: Request.readings requests, m.IsReading days)
    (hclock : (now :: Request.readings requests).Pairwise fun a b => a.instant ≤ b.instant) :
    (serve store (.int days) now requests s).result = .ok (Ledger.serve days ⟨[], now⟩ requests) ∧
      ∀ moment scan, (Review.ofScan moment scan).asRead = Review.ofScan moment scan ↔
        ∀ i ∈ scan.issues, i.IsTyped :=
  ⟨result_serve_of_empty hstore hempty hreadings hclock, fun _ _ => Review.asRead_eq_self_iff⟩

/-- A month: the review of the first day has expired at the same instant 30 days later, which the clock
then shows with another offset; and after a clear there is none. -/
theorem serve_eq_ledger_of_month :
    let first : Moment := ⟨⟨2026, 1, 1⟩, 12, 0, 0, 0, some 0⟩
    let last : Moment := ⟨⟨2026, 1, 31⟩, 14, 0, 0, 0, some 7200000000⟩
    let scan : ScanResult :=
      { file := "a.js", issues := [⟨.int 3, .int 1, .string "m", "info", "r", "style"⟩] }
    let review := Review.ofScan last scan
    let requests : List Request := [.record scan, .reviews, .advance last, .record scan,
      .record (.leftOut "b.js"), .record scan, .reviews, .clear, .reviews]
    (serve Memory.store (.int 30) first requests ⟨Store.emptyDocument, false, false⟩).result =
      .ok [.recorded (some (Review.ofScan first scan)), .listed [Review.ofScan first scan], .advanced,
        .recorded (some review), .recorded none, .recorded (some review), .listed [review, review],
        .cleared true, .listed []] := by
  intro first last scan review requests
  have hfirst : first.IsReading 30 :=
    ⟨⟨by decide, by decide, by decide, by decide, by decide, 0, rfl, .inl rfl⟩,
      30 * Moment.microsPerDay, ⟨⟨2025, 12, 2⟩, 12, 0, 0, 0, some 0⟩, by decide +kernel, by decide +kernel⟩
  have hlast : last.IsReading 30 :=
    ⟨⟨by decide, by decide, by decide, by decide, by decide, 7200000000, rfl,
        .inr (by decide +kernel)⟩,
      30 * Moment.microsPerDay, ⟨⟨2026, 1, 1⟩, 14, 0, 0, 0, some 7200000000⟩, by decide +kernel,
      by decide +kernel⟩
  have hlater : first.instant < last.instant := by decide +kernel
  have hreadings : ∀ m ∈ first :: Request.readings requests, m.IsReading 30 :=
    List.forall_mem_cons.2 ⟨hfirst, List.forall_mem_singleton.2 hlast⟩
  obtain ⟨hanswers, hread⟩ :=
    serve_eq_ledger Memory.keeps rfl hreadings (List.pairwise_pair.2 (le_of_lt hlater))
  have htyped : ∀ i ∈ scan.issues, i.IsTyped :=
    List.forall_mem_singleton.2 ⟨⟨3, rfl⟩, ⟨1, rfl⟩, ⟨"m", rfl⟩⟩
  have hexpired : last.instant - 30 * Moment.microsPerDay = first.instant := by decide +kernel
  have hspan : 0 < 30 * Moment.microsPerDay := by decide
  have hincluded : scan.excluded = false := rfl
  have hleftOut : (ScanResult.leftOut "b.js").excluded = true := rfl
  rw [hanswers]
  simp [requests, Ledger.serve, Ledger.answer, Ledger.next, Ledger.after, Ledger.expiry,
    Recording.review, (hread _ _).2 htyped, hexpired, hspan, hlater, hincluded,
    hleftOut, review]

/-- The first review that memory holds is listed later on, if it is after the cutoffs of both moments. -/
theorem result_serve_memory {retention : Value} {now later limit limit' : Moment} (scan : ScanResult)
    (hnow : (History.mk Memory.store retention now).cutoff = .ok limit)
    (hlater : (History.mk Memory.store retention later).cutoff = .ok limit') (hexcluded : scan.excluded = false)
    (hafter : isAfter limit (Review.ofScan now scan).members = true)
    (hstays : isAfter limit' (Review.ofScan now scan).members = true) :
    (serve Memory.store retention now [.record scan, .advance later, .reviews]
      ⟨Store.emptyDocument, false, false⟩).result =
      .ok [.recorded (some (Review.ofScan now scan)), .advanced,
        .listed [Review.ofMembers (Review.ofScan now scan).members]] := by
  have hwith : (History.mk Memory.store retention now).entriesWith ⟨Store.emptyDocument, false, false⟩
      (Review.ofScan now scan) = .ok [(Review.ofScan now scan).members] := entriesWith_of_none _ _ rfl hnow hafter
  have hrecord : ((History.mk Memory.store retention now).record scan ⟨Store.emptyDocument, false, false⟩).result =
      .ok (some (Review.ofScan now scan)) := by
    rw [result_record, hexcluded, hwith]
    rfl
  have hstate : ((History.mk Memory.store retention now).record scan ⟨Store.emptyDocument, false, false⟩).state =
      ⟨Store.documentOf ([(Review.ofScan now scan).members].map .object), false, false⟩ := by
    rw [state_record, hexcluded, hwith]
    rfl
  have hreviews : ((History.mk Memory.store retention later).reviews
      ⟨Store.documentOf ([(Review.ofScan now scan).members].map .object), false, false⟩).result =
        .ok [Review.ofMembers (Review.ofScan now scan).members] := by
    rw [result_reviews, reviewsNow_of_documentOf rfl hlater, objects_map_object, List.filter_cons_of_pos hstays]
    simp
  simp only [serve, answer, Act.result_bind, Act.state_bind, Act.result_pure, Act.state_pure, Request.clock,
    hrecord, hstate, hreviews]

/-- A place that is a text, as the linter may give one, is listed as an integer; and an offset of half a
second is lost, so that a review is listed that has expired. -/
theorem listed_ne_recorded :
    let now : Moment := ⟨⟨2026, 1, 1⟩, 0, 0, 0, 0, some 0⟩
    let shifted : Moment := { now with offset := some 500000 }
    let later : Moment := ⟨⟨2026, 1, 30⟩, 23, 59, 59, 700000, some 0⟩
    let issue : Issue := ⟨.string "7", .int 1, .string "m", "warning", "r", "style"⟩
    let scan : ScanResult := { file := "a.js", issues := [issue] }
    let empty : Memory := ⟨Store.emptyDocument, false, false⟩
    (Linter.issueOf (.object [("ruleId", .string "r"), ("line", .string "7"),
        ("message", .string "m")]) = .ok issue ∧
      (serve Memory.store (.int 30) now [.record scan, .reviews] empty).result =
        .ok [.recorded (some (Review.ofScan now scan)), .listed [(Review.ofScan now scan).asRead]] ∧
      (Review.ofScan now scan).asRead ≠ Review.ofScan now scan) ∧
    shifted.instant ≤ later.instant - 30 * Moment.microsPerDay ∧
    ∃ review, (serve Memory.store (.int 30) shifted [.record { file := "b.js" }, .advance later,
        .reviews] empty).result =
      .ok [.recorded (some (Review.ofScan shifted { file := "b.js" })), .advanced, .listed [review]] := by
  intro now shifted later issue scan empty
  have hnow : now.IsReading 30 :=
    ⟨⟨by decide, by decide, by decide, by decide, by decide, 0, rfl, .inl rfl⟩,
      30 * Moment.microsPerDay, ⟨⟨2025, 12, 2⟩, 0, 0, 0, 0, some 0⟩, rfl, by decide +kernel⟩
  have hserved : (serve Memory.store (.int 30) now [.record scan, .reviews] empty).result =
      .ok [.recorded (some (Review.ofScan now scan)), .listed [(Review.ofScan now scan).asRead]] := by
    rw [result_serve_of_empty Memory.keeps rfl (List.forall_mem_singleton.2 hnow) (List.pairwise_singleton _ _)]
    have hspan : 0 < 30 * Moment.microsPerDay := by decide
    have hincluded : scan.excluded = false := rfl
    simp [Ledger.serve, Ledger.answer, Ledger.next, Ledger.after, Ledger.expiry, Recording.review, hspan, hincluded]
  have hfirst : (History.mk Memory.store (.int 30) shifted).cutoff = .ok ⟨⟨2025, 12, 2⟩, 0, 0, 0, 0, some 500000⟩ :=
    cutoff_of_earlier rfl (by decide +kernel) _
  have hlast : (History.mk Memory.store (.int 30) later).cutoff = .ok ⟨⟨2025, 12, 31⟩, 23, 59, 59, 700000, some 0⟩ :=
    cutoff_of_earlier rfl (by decide +kernel) _
  -- read back without the half second, the entry is after both cutoffs
  have hlisted := result_serve_memory { file := "b.js" } hfirst hlast rfl (by decide +kernel) (by decide +kernel)
  refine ⟨⟨rfl, hserved, fun h => ?_⟩, by decide +kernel, _, hlisted⟩
  obtain ⟨⟨n, hline⟩, -, -⟩ := Review.asRead_eq_self_iff.1 h _ (List.mem_singleton_self _)
  cases hline

end History

end CodeReview
