/-
Recordings that overlap: one is between its two steps while another is. Recordings through one history never
do, and one that overlaps no other is not lost; but histories know nothing of one another's locks, and of
two recordings that overlap one is lost (`kept_unless_overlapping`).
-/
import CodeReview.Proofs.History.Retention
import CodeReview.Proofs.History.Sharing

namespace CodeReview.History.Board

variable {σ ι κ : Type} [DecidableEq ι] [DecidableEq κ] {recordings : ι → Recording κ} {limit : ι → Moment}

/-- At some time of a run two recordings are both between their two steps. -/
def Overlap (store : Store σ) (recordings : ι → Recording κ) (schedule : List ι) (board : Board σ ι κ)
    (i j : ι) : Prop :=
  i ≠ j ∧ ∃ before, before <+: schedule ∧ (board.run store recordings before).IsBusy i ∧
    (board.run store recordings before).IsBusy j

/-! ## The locks -/

section Invariants

variable {board : Board (List Kept) ι κ}

/-- A recording between its two steps holds the lock of its history, and it alone. -/
def Locks (recordings : ι → Recording κ) (board : Board (List Kept) ι κ) : Prop :=
  ∀ i, board.IsBusy i → board.locked (recordings i).through = true ∧
    ∀ j, board.IsBusy j → (recordings j).through = (recordings i).through → j = i

theorem Locks.move (h : board.Locks recordings) (i : ι) :
    (board.move recordings limit i).Locks recordings := by
  refine move_induction h (fun _ hfree => ?_) fun entries hphase => ?_
  · -- the history is free, so none of its recordings is between its steps
    have hnone (j : ι) (hj : board.IsBusy j) : (recordings j).through ≠ (recordings i).through := by
      intro hsame
      have hlocked := (h j hj).1
      rw [hsame, hfree] at hlocked
      cases hlocked
    intro j hj
    rcases isBusy_begun.1 hj with rfl | hbusy
    · refine ⟨Function.update_self .., fun k hk hthrough => ?_⟩
      rcases isBusy_begun.1 hk with hk | hk
      · exact hk
      · exact absurd hthrough (hnone k hk)
    · refine ⟨(Function.update_of_ne (hnone j hbusy) ..).trans (h j hbusy).1, fun k hk hthrough => ?_⟩
      rcases isBusy_begun.1 hk with rfl | hk
      · exact absurd hthrough.symm (hnone j hbusy)
      · exact (h j hbusy).2 k hk hthrough
  · intro j hj
    obtain ⟨hne, hj⟩ := isBusy_ended.1 hj
    -- the lock that is given back is none of those still held
    have hother : (recordings j).through ≠ (recordings i).through := fun hthrough =>
      hne ((h i ⟨entries, hphase⟩).2 j hj hthrough)
    exact ⟨(Function.update_of_ne hother ..).trans (h j hj).1, fun k hk hthrough =>
      (h j hj).2 k (isBusy_ended.1 hk).2 hthrough⟩

/-- Recordings through one history are never both between their two steps. -/
theorem eq_of_isBusy (entries : List Kept) (schedule : List ι) {i j : ι}
    (hi : ((start entries).moves recordings limit schedule).IsBusy i)
    (hj : ((start entries).moves recordings limit schedule).IsBusy j)
    (hthrough : (recordings i).through = (recordings j).through) : i = j := by
  have hstart : (start entries : Board (List Kept) ι κ).Locks recordings := fun _ ⟨_, h⟩ => nomatch h
  exact (moves_induction (fun _ i h => h.move i) hstart schedule j hj).2 i hi hthrough

/-! ## A recording that overlaps no other -/

/-- What a recording has gathered has its entry. -/
def Fresh (recordings : ι → Recording κ) (i : ι) (board : Board (List Kept) ι κ) : Prop :=
  ∀ entries, board.phase i = .gathered entries → (recordings i).entry ∈ entries

theorem Fresh.move {i : ι} (h : board.Fresh recordings i)
    (hinside : isAfter (limit i) (recordings i).entry = true) (j : ι) :
    (board.move recordings limit j).Fresh recordings i := by
  refine move_induction h (fun _ _ => ?_) fun next _ => ?_
  · intro entries hi
    rcases phase_begun_eq_gathered.1 hi with ⟨rfl, rfl⟩ | ⟨-, hi⟩
    · exact Recording.entry_mem_put hinside
    · exact h entries hi
  · intro entries hi
    rcases phase_ended_eq.1 hi with ⟨-, ⟨⟩⟩ | ⟨-, hi⟩
    exact h entries hi

/-- When a recording is over, its entry is in the document and in what the others have gathered. -/
structure Stays (recordings : ι → Recording κ) (i : ι) (board : Board (List Kept) ι κ) : Prop where
  stored (h : board.phase i = .finished) : (recordings i).entry ∈ board.store
  others (h : board.phase i = .finished) {j : ι} {entries : List Kept}
    (hj : board.phase j = .gathered entries) : (recordings i).entry ∈ entries

theorem Stays.move {i : ι} (h : board.Stays recordings i) (hfresh : board.Fresh recordings i)
    (halone : board.IsBusy i → ∀ j, board.IsBusy j → j = i)
    (hinside : ∀ j, isAfter (limit j) (recordings i).entry = true) (j : ι) :
    (board.move recordings limit j).Stays recordings i := by
  refine move_induction h (fun _ _ => ⟨fun hi => ?_, fun hi {k entries} hk => ?_⟩)
    fun next hphase => ⟨fun hi => ?_, fun hi {k entries} hk => ?_⟩
  · rcases phase_begun_eq.1 hi with ⟨-, ⟨⟩⟩ | ⟨-, hover⟩
    exact h.stored hover
  · rcases phase_begun_eq.1 hi with ⟨-, ⟨⟩⟩ | ⟨-, hover⟩
    rcases phase_begun_eq_gathered.1 hk with ⟨rfl, rfl⟩ | ⟨-, hbusy⟩
    · exact Recording.mem_put (h.stored hover) (hinside k)
    · exact h.others hover hbusy
  · rcases phase_ended_eq.1 hi with ⟨rfl, -⟩ | ⟨-, hover⟩
    · exact hfresh next hphase
    · exact h.others hover hphase
  · rcases phase_ended_eq.1 hk with ⟨-, ⟨⟩⟩ | ⟨hne, hbusy⟩
    rcases phase_ended_eq.1 hi with ⟨rfl, -⟩ | ⟨-, hover⟩
    · -- what others gathered before this was written would lack the entry, but there are none
      exact absurd (halone ⟨next, hphase⟩ k ⟨entries, hbusy⟩) hne
    · exact h.others hover hbusy

theorem Stays.moves {i : ι} (schedule : List ι) (h : board.Stays recordings i)
    (hfresh : board.Fresh recordings i)
    (halone : ∀ before, before <+: schedule → (board.moves recordings limit before).IsBusy i →
      ∀ j, (board.moves recordings limit before).IsBusy j → j = i)
    (hinside : ∀ j, isAfter (limit j) (recordings i).entry = true) :
    (board.moves recordings limit schedule).Stays recordings i := by
  induction schedule generalizing board with
  | nil => exact h
  | cons j rest ih =>
    refine ih (h.move hfresh (halone [] List.nil_prefix) hinside j) (hfresh.move (hinside i) j) ?_
    exact fun before hbefore => halone (j :: before) ((List.prefix_cons_inj j).2 hbefore)

/-- What the last of several recordings wrote has its own entry. -/
structure Survives (recordings : ι → Recording κ) (board : Board (List Kept) ι κ) : Prop where
  fresh (i : ι) : board.Fresh recordings i
  stored {i : ι} (h : board.phase i = .finished) : ∃ j, (recordings j).entry ∈ board.store

theorem Survives.move (h : board.Survives recordings)
    (hinside : ∀ i, isAfter (limit i) (recordings i).entry = true) (j : ι) :
    (board.move recordings limit j).Survives recordings := by
  refine ⟨fun i => (h.fresh i).move (hinside i) j, fun {i} => ?_⟩
  refine move_induction (P := fun next => next.phase i = .finished → ∃ j, (recordings j).entry ∈ next.store)
    h.stored (fun _ _ hi => ?_) fun next hphase _ => ?_
  · rcases phase_begun_eq.1 hi with ⟨-, ⟨⟩⟩ | ⟨-, hover⟩
    exact h.stored hover
  · exact ⟨j, h.fresh j next hphase⟩

/-! ## Two recordings that overlap -/

/-- The entries of recordings that are not over are in what these have gathered, and nowhere else. -/
def Absent (recordings : ι → Recording κ) (board : Board (List Kept) ι κ) : Prop :=
  ∀ i, board.phase i ≠ .finished → (recordings i).entry ∉ board.store ∧
    ∀ j entries, board.phase j = .gathered entries → (recordings i).entry ∈ entries → i = j

theorem Absent.move (hdistinct : Function.Injective fun i => (recordings i).entry)
    (h : board.Absent recordings) (j : ι) : (board.move recordings limit j).Absent recordings := by
  refine move_induction h (fun hphase _ i hi => ?_) fun next hphase i hi => ?_
  · have hbefore : board.phase i ≠ .finished := by
      intro hfinished
      refine hi (phase_begun_eq.2 (.inr ⟨?_, hfinished⟩))
      rintro rfl
      rw [hphase] at hfinished
      cases hfinished
    obtain ⟨hstored, hothers⟩ := h i hbefore
    refine ⟨hstored, fun k entries hk hentry => ?_⟩
    rcases phase_begun_eq_gathered.1 hk with ⟨rfl, rfl⟩ | ⟨-, hk⟩
    · rcases Recording.mem_of_mem_put hentry with hsame | hfound
      · exact hdistinct hsame
      · exact absurd hfound hstored
    · exact hothers k entries hk hentry
  · have hne : i ≠ j := fun hsame => hi (phase_ended_eq.2 (.inl ⟨hsame, rfl⟩))
    obtain ⟨-, hothers⟩ := h i fun hfinished => hi (phase_ended_eq.2 (.inr ⟨hne, hfinished⟩))
    refine ⟨fun hstored => hne (hothers j next hphase hstored), fun k entries hk => ?_⟩
    rcases phase_ended_eq.1 hk with ⟨-, ⟨⟩⟩ | ⟨-, hk⟩
    exact hothers k entries hk

omit [DecidableEq ι] [DecidableEq κ] in
theorem absent_start {entries : List Kept} (hnew : ∀ i, (recordings i).entry ∉ entries) :
    (start entries : Board (List Kept) ι κ).Absent recordings :=
  fun i _ => ⟨hnew i, nofun⟩

/-- Two recordings have begun, and neither the document nor anything gathered has the entries of both. -/
structure Torn (recordings : ι → Recording κ) (i j : ι) (board : Board (List Kept) ι κ) : Prop where
  first : board.phase i ≠ .waiting
  second : board.phase j ≠ .waiting
  store : ¬ ((recordings i).entry ∈ board.store ∧ (recordings j).entry ∈ board.store)
  gathered {k : ι} {entries : List Kept} (h : board.phase k = .gathered entries) :
    ¬ ((recordings i).entry ∈ entries ∧ (recordings j).entry ∈ entries)

omit [DecidableEq ι] [DecidableEq κ] in
/-- While both are between their steps, each has gathered only its own entry. -/
theorem Absent.torn (h : board.Absent recordings) {i j : ι} (hne : i ≠ j) (hi : board.IsBusy i)
    (hj : board.IsBusy j) : board.Torn recordings i j := by
  obtain ⟨found, hi⟩ := hi
  obtain ⟨found', hj⟩ := hj
  have hfirst := h i (by rw [hi]; nofun)
  have hsecond := h j (by rw [hj]; nofun)
  refine ⟨by rw [hi]; nofun, by rw [hj]; nofun, fun hboth => hfirst.1 hboth.1, ?_⟩
  intro k entries hk hboth
  exact hne ((hfirst.2 k entries hk hboth.1).trans (hsecond.2 k entries hk hboth.2).symm)

theorem Torn.move (hdistinct : Function.Injective fun i => (recordings i).entry) {i j : ι}
    (h : board.Torn recordings i j) (k : ι) : (board.move recordings limit k).Torn recordings i j := by
  refine move_induction h (fun hphase _ => ?_) fun next hphase => ?_
  · -- only a recording that begins puts an entry anywhere, and it is neither of the two
    have hstored {l : ι} (hl : board.phase l ≠ .waiting)
        (hentry : (recordings l).entry ∈ (recordings k).put (limit k) board.store) :
        (recordings l).entry ∈ board.store := by
      refine (Recording.mem_of_mem_put hentry).resolve_left fun hsame => hl ?_
      rw [hdistinct hsame, hphase]
    refine ⟨mt waiting_of_begun h.first, mt waiting_of_begun h.second, h.store, fun {l entries} hl hboth => ?_⟩
    rcases phase_begun_eq_gathered.1 hl with ⟨-, rfl⟩ | ⟨-, hl⟩
    · exact h.store ⟨hstored h.first hboth.1, hstored h.second hboth.2⟩
    · exact h.gathered hl hboth
  · refine ⟨mt waiting_of_ended h.first, mt waiting_of_ended h.second, h.gathered hphase,
      fun {l entries} hl hboth => ?_⟩
    rcases phase_ended_eq.1 hl with ⟨-, ⟨⟩⟩ | ⟨-, hl⟩
    exact h.gathered hl hboth

theorem torn_moves (hdistinct : Function.Injective fun i => (recordings i).entry) {entries : List Kept}
    (hnew : ∀ i, (recordings i).entry ∉ entries) {before schedule : List ι} (hbefore : before <+: schedule)
    {i j : ι} (hne : i ≠ j) (hi : ((start entries).moves recordings limit before).IsBusy i)
    (hj : ((start entries).moves recordings limit before).IsBusy j) :
    ((start entries).moves recordings limit schedule).Torn recordings i j := by
  have habsent : ((start entries).moves recordings limit before).Absent recordings :=
    moves_induction (fun _ i h => h.move hdistinct i) (absent_start hnew) before
  obtain ⟨after, rfl⟩ := hbefore
  unfold moves
  rw [List.foldl_append]
  exact moves_induction (fun _ i h => h.move hdistinct i) (habsent.torn hne hi hj) after

end Invariants

/-! ## A whole run -/

/-- Over a store that serves entries, recordings that overlap go through different histories. When all
are over, the entry of a recording that overlapped no other is in the document if it is inside every
window, and some entry is if all are. If the new entries are distinct, of two recordings that overlapped
at most one has its entry in the document. -/
theorem kept_unless_overlapping {store : Store σ} {fits : Kept → Prop} {holds : σ → List Kept → Prop}
    (hstore : store.Serves fits holds)
    (hcutoff : ∀ i, ((recordings i).history store).cutoff = .ok (limit i))
    (hfits : ∀ i, fits (recordings i).entry) {s : σ} {entries : List Kept} (hholds : holds s entries)
    (hentries : ∀ entry ∈ entries, fits entry) (schedule : List ι)
    (hfinished : ∀ i, ((start s).run store recordings schedule).phase i = .finished) :
    ∃ kept, holds ((start s).run store recordings schedule).store kept ∧
      (∀ i j, (start s).Overlap store recordings schedule i j →
        (recordings i).through ≠ (recordings j).through) ∧
      (∀ i, (∀ j, isAfter (limit j) (recordings i).entry = true) →
        (∀ j, ¬ (start s).Overlap store recordings schedule i j) → (recordings i).entry ∈ kept) ∧
      (Nonempty ι → (∀ i, isAfter (limit i) (recordings i).entry = true) →
        ∃ i, (recordings i).entry ∈ kept) ∧
      ((Function.Injective fun i => (recordings i).entry) → (∀ i, (recordings i).entry ∉ entries) →
        ∀ i j, (start s).Overlap store recordings schedule i j →
          ¬ ((recordings i).entry ∈ kept ∧ (recordings j).entry ∈ kept)) := by
  have hshows (before : List ι) : ((start s).run store recordings before).Shows fits holds
      ((start entries).moves recordings limit before) :=
    (shows_start hholds hentries).run hstore hcutoff hfits before
  have hover (i : ι) : ((start entries).moves recordings limit schedule).phase i = .finished := by
    rw [← (hshows schedule).phase]
    exact hfinished i
  refine ⟨_, (hshows schedule).store, ?_, ?_, ?_, ?_⟩
  · rintro i j ⟨hne, before, -, hi, hj⟩ hthrough
    exact hne (eq_of_isBusy entries before (((hshows before).isBusy_iff i).1 hi)
      (((hshows before).isBusy_iff j).1 hj) hthrough)
  · intro i hinside halone
    have hstart : (start entries : Board (List Kept) ι κ).Stays recordings i := ⟨nofun, nofun⟩
    refine (hstart.moves schedule (fun _ => nofun) ?_ hinside).stored (hover i)
    intro before hbefore hi j hj
    by_contra hne
    exact halone j ⟨Ne.symm hne, before, hbefore, ((hshows before).isBusy_iff i).2 hi,
      ((hshows before).isBusy_iff j).2 hj⟩
  · rintro ⟨i⟩ hinside
    have hstart : (start entries : Board (List Kept) ι κ).Survives recordings := ⟨fun _ => nofun, nofun⟩
    exact (moves_induction (fun _ j h => h.move hinside j) hstart schedule).stored (hover i)
  · rintro hdistinct hnew i j ⟨hne, before, hbefore, hi, hj⟩
    exact (torn_moves hdistinct hnew hbefore hne (((hshows before).isBusy_iff i).1 hi)
      (((hshows before).isBusy_iff j).1 hj)).store

/-- Two scans on two days, recorded through some histories. -/
def twoDays (through : Bool → κ) : Bool → Recording κ
  | false => ⟨through false, .int 30, ⟨⟨2026, 1, 1⟩, 0, 0, 0, 0, some 0⟩, { file := "a.js" }, rfl⟩
  | true => ⟨through true, .int 30, ⟨⟨2026, 1, 2⟩, 0, 0, 0, 0, some 0⟩, { file := "b.js" }, rfl⟩

/-- The cutoffs of two recordings on two days. -/
def twoLimits : Bool → Moment
  | false => ⟨⟨2025, 12, 2⟩, 0, 0, 0, 0, some 0⟩
  | true => ⟨⟨2025, 12, 3⟩, 0, 0, 0, 0, some 0⟩

omit [DecidableEq κ] in
theorem cutoff_twoDays (through : Bool → κ) (store : Store σ) (i : Bool) :
    ((twoDays through i).history store).cutoff = .ok (twoLimits i) := by
  cases i with
  | false => exact cutoff_of_earlier rfl (by dsimp only [twoDays]; decide +kernel) _
  | true => exact cutoff_of_earlier rfl (by dsimp only [twoDays]; decide +kernel) _

omit [DecidableEq κ] in
theorem isAfter_twoDays (through : Bool → κ) (i j : Bool) :
    isAfter (twoLimits i) (twoDays through j).entry = true := by
  have hnow : (twoDays through j).now.Legible := by
    cases j <;> dsimp only [twoDays] <;>
      exact ⟨by decide, by decide, by decide, by decide, by decide, 0, rfl, .inl rfl⟩
  refine (isAfter_members_iff hnow (twoDays through j).scan).2 ?_
  cases i <;> cases j <;> dsimp only [twoDays] <;> decide

/-- Through one history the second recording waits until the first is over. -/
theorem kept_unless_overlapping_waiting :
    let final := (start ⟨Store.emptyDocument, false, false⟩).run Memory.store (twoDays fun _ => ())
      [false, true, false, true, true]
    (∀ i, final.phase i = .finished) ∧
      ∃ kept, entriesOf final.store.document = .ok kept ∧ ∀ i, (twoDays (fun _ => ()) i).entry ∈ kept := by
  intro final
  have hfinished : ∀ i, final.phase i = .finished := by
    intro i
    cases i <;> with_unfolding_all rfl
  refine ⟨hfinished, ?_⟩
  obtain ⟨kept, ⟨document, hdocument, hkept⟩, hthrough, hlone, -, -⟩ :=
    kept_unless_overlapping Memory.keeps.serves (cutoff_twoDays (fun _ => ()) Memory.store)
      (fun _ => trivial) ⟨Store.emptyDocument, rfl, rfl⟩ (fun _ _ => trivial)
      [false, true, false, true, true] hfinished
  have hfinal : final.store = ⟨document, false, false⟩ := hdocument
  rw [hfinal]
  exact ⟨kept, hkept, fun i => hlone i (fun j => isAfter_twoDays _ j i) fun j hover => hthrough i j hover rfl⟩

/-- Through two histories the second recording finds nothing yet and writes over the first. -/
theorem lost_of_overlapping :
    let final := (start ⟨Store.emptyDocument, false, false⟩).run Memory.store (twoDays id)
      [false, true, false, true]
    (∀ i, final.phase i = .finished) ∧
      (∀ i, ∃ limit, ((twoDays id i).history Memory.store).cutoff = .ok limit ∧
        isAfter limit (twoDays id false).entry = true) ∧
      ∃ kept, entriesOf final.store.document = .ok kept ∧ (twoDays id false).entry ∉ kept := by
  intro final
  refine ⟨fun i => ?_, fun i => ⟨twoLimits i, cutoff_twoDays id _ i, isAfter_twoDays id i false⟩,
    [(twoDays id true).entry], ?_, ?_⟩
  · cases i <;> with_unfolding_all rfl
  · with_unfolding_all rfl
  · rw [List.mem_singleton]
    intro hsame
    have hpath := congrArg (Json.lookup "file_path") hsame
    simp [twoDays, Recording.entry, Recording.review, Review.members, Review.ofScan, Json.lookup] at hpath

end CodeReview.History.Board
