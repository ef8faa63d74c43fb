/-
Histories that share a store. A recording takes two steps: it gathers what is to be written from what it
finds, and it writes that (`Recording.record_eq`). Each history holds a lock from the first step to the
second, and the steps of different histories may come in any order (`Board.run`). Over a store that serves
entries they do what they would do to the entries alone (`Board.Shows.run`).
-/
import CodeReview.Proofs.History.Steps
import CodeReview.Proofs.History.Window
import CodeReview.Proofs.Store.Entries

namespace CodeReview

open History (Kept entriesOf isAfter)

/-! ## Stores that serve entries -/

/-- A store that never fails and gives the entries it was given last, if they fit it; `holds` says which
entries a state has. -/
structure Store.Serves {σ : Type} (store : Store σ) (fits : Kept → Prop)
    (holds : σ → List Kept → Prop) : Prop where
  load {s : σ} {entries : List Kept} (h : holds s entries) (hfits : ∀ entry ∈ entries, fits entry) :
    ∃ document, entriesOf document = .ok entries ∧ store.load.Yields s document (holds · entries)
  save {s : σ} {entries : List Kept} (h : holds s entries) {next : List Kept}
    (hfits : ∀ entry ∈ next, fits entry) :
    (store.save (Store.documentWith next)).Yields s () (holds · next)

/-- A store that keeps documents serves whatever entries they have. -/
theorem Store.Keeps.serves {σ : Type} {store : Store σ} {kept : σ → Json → Prop}
    (h : store.Keeps kept) : store.Serves (fun _ => True)
      fun s entries => ∃ document, kept s document ∧ entriesOf document = .ok entries where
  load := by
    rintro s entries ⟨document, hkept, hentries⟩ -
    exact ⟨document, hentries, (h.load hkept).imp fun _ hnext => ⟨document, hnext, hentries⟩⟩
  save := by
    rintro s entries ⟨document, hkept, -⟩ next -
    exact (h.save hkept _).imp fun _ hnext => ⟨_, hnext, History.entriesOf_documentOf next⟩

/-- A store that keeps entries serves those that are legible. -/
theorem Store.KeepsEntries.serves {σ : Type} {store : Store σ} {holds : σ → List Kept → Prop}
    (h : store.KeepsEntries holds) :
    store.Serves (fun entry => Json.Legible (Json.maxDepth - 2) (.object entry)) holds where
  load hholds hfits :=
    ⟨_, History.entriesOf_documentOf _, h.load hholds hfits⟩
  save hholds _ hfits := h.save hholds hfits

namespace History

variable {σ ι κ : Type}

/-! ## The two steps of a recording -/

/-- What a recording writes: the new review and what is found, as far as they are inside the window. -/
def gather (h : History σ) (review : Review) : Act σ (List Kept) := do
  h.prune (review.members :: (← h.load))

section Steps

variable {store : Store σ} {fits : Kept → Prop} {holds : σ → List Kept → Prop} {s : σ} {h : History σ}
  {entries : List Kept}

theorem load_serves (hstore : h.store.Serves fits holds) (hholds : holds s entries)
    (hfits : ∀ entry ∈ entries, fits entry) : h.load.Yields s entries (holds · entries) := by
  obtain ⟨document, hentries, hload⟩ := hstore.load hholds hfits
  unfold load
  refine .bind hload.attempt fun s' hs' => ?_
  dsimp only
  rw [hentries]
  exact .ofExcept hs'

theorem gather_serves (hstore : h.store.Serves fits holds) {limit : Moment} (hcutoff : h.cutoff = .ok limit)
    (hholds : holds s entries) (hfits : ∀ entry ∈ entries, fits entry) (review : Review) :
    (h.gather review).Yields s ((review.members :: entries).filter (isAfter limit))
      (holds · entries) := by
  unfold gather
  refine .bind (load_serves hstore hholds hfits) fun s' hs' => ?_
  exact (prune_yields hcutoff _).imp fun s'' hs'' => hs'' ▸ hs'

theorem save_serves (hstore : h.store.Serves fits holds) (hholds : holds s entries)
    {next : List Kept} (hfits : ∀ entry ∈ next, fits entry) :
    (h.save next).Yields s () (holds · next) := by
  unfold save
  refine .bind (hstore.save hholds hfits).attempt fun s' hs' => ?_
  exact .pure hs'

end Steps

/-! ## Recordings at the same time -/

/-- A recording of a scan that is not left out, through one of the histories that share a store. -/
structure Recording (κ : Type) where
  through : κ
  retention : Value
  now : Moment
  scan : ScanResult
  included : scan.excluded = false

namespace Recording

def history (recording : Recording κ) (store : Store σ) : History σ :=
  ⟨store, recording.retention, recording.now⟩

def review (recording : Recording κ) : Review := Review.ofScan recording.now recording.scan

/-- The new entry. -/
def entry (recording : Recording κ) : Kept := recording.review.members

/-- What becomes of entries that are found, where `limit` is the cutoff. -/
def put (recording : Recording κ) (limit : Moment) (entries : List Kept) : List Kept :=
  (recording.entry :: entries).filter (isAfter limit)

/-- To record is to gather and then to write. -/
theorem record_eq (recording : Recording κ) (store : Store σ) :
    (recording.history store).record recording.scan = (do
      let entries ← (recording.history store).gather recording.review
      (recording.history store).save entries
      return some recording.review) := by
  unfold record gather
  rw [recording.included, bind_assoc]
  rfl

variable {recording : Recording κ} {limit : Moment} {entries : List Kept} {entry : Kept}

theorem entry_mem_put (hinside : isAfter limit recording.entry = true) :
    recording.entry ∈ recording.put limit entries :=
  List.mem_filter.2 ⟨List.mem_cons_self, hinside⟩

theorem mem_put (hentry : entry ∈ entries) (hinside : isAfter limit entry = true) :
    entry ∈ recording.put limit entries :=
  List.mem_filter.2 ⟨List.mem_cons_of_mem _ hentry, hinside⟩

theorem mem_of_mem_put (hentry : entry ∈ recording.put limit entries) :
    entry = recording.entry ∨ entry ∈ entries :=
  List.mem_cons.1 (List.mem_of_mem_filter hentry)

end Recording

/-- How far a recording has come. -/
inductive Phase where
  | waiting
  /-- It has gathered what it is to write. -/
  | gathered (entries : List Kept)
  | finished

/-- A store that recordings share, how far each has come, and which histories are locked. -/
structure Board (σ ι κ : Type) where
  store : σ
  phase : ι → Phase
  locked : κ → Bool

namespace Board

/-- Nothing has begun. -/
def start (s : σ) : Board σ ι κ := ⟨s, fun _ => .waiting, fun _ => false⟩

/-- A recording is between its two steps. -/
def IsBusy (board : Board σ ι κ) (i : ι) : Prop := ∃ entries, board.phase i = .gathered entries

variable [DecidableEq ι] [DecidableEq κ]

/-- A recording has gathered entries, and its history is locked. -/
def begun (recordings : ι → Recording κ) (board : Board σ ι κ) (i : ι) (entries : List Kept) (s : σ) :
    Board σ ι κ :=
  ⟨s, Function.update board.phase i (.gathered entries),
    Function.update board.locked (recordings i).through true⟩

/-- A recording is over, and its history is free. -/
def ended (recordings : ι → Recording κ) (board : Board σ ι κ) (i : ι) (s : σ) : Board σ ι κ :=
  ⟨s, Function.update board.phase i .finished,
    Function.update board.locked (recordings i).through false⟩

/-- The next step of a recording. It waits while its history is locked, and a fault ends it. -/
def step (store : Store σ) (recordings : ι → Recording κ) (board : Board σ ι κ) (i : ι) :
    Board σ ι κ :=
  match board.phase i with
  | .waiting =>
    if board.locked (recordings i).through then board
    else
      let outcome := ((recordings i).history store).gather (recordings i).review board.store
      match outcome.result with
      | .ok entries => board.begun recordings i entries outcome.state
      | .error _ => board.ended recordings i outcome.state
  | .gathered entries =>
    board.ended recordings i (((recordings i).history store).save entries board.store).state
  | .finished => board

/-- The steps of recordings in some order. -/
def run (store : Store σ) (recordings : ι → Recording κ) (schedule : List ι) (board : Board σ ι κ) :
    Board σ ι κ :=
  schedule.foldl (step store recordings) board

section Lookup

variable {recordings : ι → Recording κ} {board : Board σ ι κ} {i j : ι} {entries : List Kept} {s : σ}
  {phase : Phase}

theorem phase_begun_eq : (board.begun recordings i entries s).phase j = phase ↔
    j = i ∧ .gathered entries = phase ∨ j ≠ i ∧ board.phase j = phase := by
  show Function.update board.phase i _ j = phase ↔ _
  by_cases hj : j = i
  · simp [hj]
  · simp [hj]

theorem phase_begun_eq_gathered {found : List Kept} :
    (board.begun recordings i entries s).phase j = .gathered found ↔
      j = i ∧ entries = found ∨ j ≠ i ∧ board.phase j = .gathered found := by
  rw [phase_begun_eq, Phase.gathered.injEq]

theorem phase_ended_eq : (board.ended recordings i s).phase j = phase ↔
    j = i ∧ .finished = phase ∨ j ≠ i ∧ board.phase j = phase := by
  show Function.update board.phase i _ j = phase ↔ _
  by_cases hj : j = i
  · simp [hj]
  · simp [hj]

theorem isBusy_begun : (board.begun recordings i entries s).IsBusy j ↔ j = i ∨ board.IsBusy j := by
  unfold IsBusy
  by_cases hj : j = i
  · simp [phase_begun_eq, hj]
  · simp [phase_begun_eq, hj]

theorem isBusy_ended : (board.ended recordings i s).IsBusy j ↔ j ≠ i ∧ board.IsBusy j := by
  unfold IsBusy
  simp [phase_ended_eq]

theorem waiting_of_begun (h : (board.begun recordings i entries s).phase j = .waiting) :
    board.phase j = .waiting := by
  rcases phase_begun_eq.1 h with ⟨-, ⟨⟩⟩ | ⟨-, h⟩
  exact h

theorem waiting_of_ended (h : (board.ended recordings i s).phase j = .waiting) :
    board.phase j = .waiting := by
  rcases phase_ended_eq.1 h with ⟨-, ⟨⟩⟩ | ⟨-, h⟩
  exact h

end Lookup

theorem step_of_waiting {store : Store σ} {recordings : ι → Recording κ} {board : Board σ ι κ} {i : ι}
    (hphase : board.phase i = .waiting) (hfree : board.locked (recordings i).through = false) :
    board.step store recordings i =
      let outcome := ((recordings i).history store).gather (recordings i).review board.store
      match outcome.result with
      | .ok entries => board.begun recordings i entries outcome.state
      | .error _ => board.ended recordings i outcome.state := by
  unfold step
  rw [hphase, hfree]
  rfl

/-- The two steps of a recording, one right after the other, are the recording. -/
theorem store_run_twice (store : Store σ) (recordings : ι → Recording κ) {board : Board σ ι κ} {i : ι}
    (hphase : board.phase i = .waiting) (hfree : board.locked (recordings i).through = false) :
    (board.run store recordings [i, i]).store =
      (((recordings i).history store).record (recordings i).scan board.store).state := by
  show ((board.step store recordings i).step store recordings i).store = _
  rw [step_of_waiting hphase hfree, Recording.record_eq]
  dsimp only
  cases hresult : (((recordings i).history store).gather (recordings i).review board.store).result with
  | ok entries =>
    dsimp only
    rw [Act.bind_ok hresult, Act.state_bind, result_save]
    unfold step
    rw [phase_begun_eq.2 (.inl ⟨rfl, rfl⟩)]
    rfl
  | error fault =>
    dsimp only
    rw [Act.bind_error hresult]
    unfold step
    rw [phase_ended_eq.2 (.inl ⟨rfl, rfl⟩)]
    rfl

/-! ## The entries alone -/

/-- The next step of a recording where the entries themselves are shared, and `limit` gives the
cutoffs. -/
def move (recordings : ι → Recording κ) (limit : ι → Moment) (board : Board (List Kept) ι κ) (i : ι) :
    Board (List Kept) ι κ :=
  match board.phase i with
  | .waiting =>
    if board.locked (recordings i).through then board
    else board.begun recordings i ((recordings i).put (limit i) board.store) board.store
  | .gathered entries => board.ended recordings i entries
  | .finished => board

def moves (recordings : ι → Recording κ) (limit : ι → Moment) (schedule : List ι)
    (board : Board (List Kept) ι κ) : Board (List Kept) ι κ :=
  schedule.foldl (move recordings limit) board

variable {recordings : ι → Recording κ} {limit : ι → Moment}

/-- What holds before a step, and after whatever it does, holds after it. -/
theorem move_induction {P : Board (List Kept) ι κ → Prop} {board : Board (List Kept) ι κ} {i : ι}
    (hsame : P board)
    (hbegun : board.phase i = .waiting → board.locked (recordings i).through = false →
      P (board.begun recordings i ((recordings i).put (limit i) board.store) board.store))
    (hended : ∀ entries, board.phase i = .gathered entries → P (board.ended recordings i entries)) :
    P (board.move recordings limit i) := by
  unfold move
  cases hphase : board.phase i with
  | waiting =>
    cases hlocked : board.locked (recordings i).through with
    | true => exact hsame
    | false => exact hbegun hphase hlocked
  | gathered entries => exact hended entries hphase
  | finished => exact hsame

/-- What each step keeps holds after a run. -/
theorem moves_induction {P : Board (List Kept) ι κ → Prop} {board : Board (List Kept) ι κ}
    (hstep : ∀ board i, P board → P (board.move recordings limit i)) (h : P board) (schedule : List ι) :
    P (board.moves recordings limit schedule) :=
  List.foldlRecOn schedule (move recordings limit) h fun board hboard i _ => hstep board i hboard

/-! ## A store and its entries -/

section Simulation

/-- A board over a store and one over the entries show the same, and the entries fit the store. -/
structure Shows (fits : Kept → Prop) (holds : σ → List Kept → Prop) (board : Board σ ι κ)
    (plain : Board (List Kept) ι κ) : Prop where
  store : holds board.store plain.store
  phase : board.phase = plain.phase
  locked : board.locked = plain.locked
  fit : ∀ entry ∈ plain.store, fits entry
  gathered {i : ι} {entries : List Kept} (h : plain.phase i = .gathered entries) :
    ∀ entry ∈ entries, fits entry

variable {store : Store σ} {fits : Kept → Prop} {holds : σ → List Kept → Prop} {board : Board σ ι κ}
  {plain : Board (List Kept) ι κ}

omit [DecidableEq ι] [DecidableEq κ] in
theorem Shows.isBusy_iff (h : board.Shows fits holds plain) (i : ι) :
    board.IsBusy i ↔ plain.IsBusy i := by
  unfold IsBusy
  rw [h.phase]

omit [DecidableEq ι] [DecidableEq κ] in
theorem shows_start {s : σ} {entries : List Kept} (hholds : holds s entries)
    (hentries : ∀ entry ∈ entries, fits entry) :
    (start s : Board σ ι κ).Shows fits holds (start entries) :=
  ⟨hholds, rfl, rfl, hentries, nofun⟩

theorem Shows.begun (h : board.Shows fits holds plain) (i : ι) {entries : List Kept}
    (hentries : ∀ entry ∈ entries, fits entry) {s : σ} (hs : holds s plain.store) :
    (board.begun recordings i entries s).Shows fits holds
      (plain.begun recordings i entries plain.store) where
  store := hs
  phase := by simp only [Board.begun, h.phase]
  locked := by simp only [Board.begun, h.locked]
  fit := h.fit
  gathered {j found} hj := by
    rcases phase_begun_eq_gathered.1 hj with ⟨-, rfl⟩ | ⟨-, hj⟩
    · exact hentries
    · exact h.gathered hj

theorem Shows.ended (h : board.Shows fits holds plain) (i : ι) {entries : List Kept}
    (hentries : ∀ entry ∈ entries, fits entry) {s : σ} (hs : holds s entries) :
    (board.ended recordings i s).Shows fits holds (plain.ended recordings i entries) where
  store := hs
  phase := by simp only [Board.ended, h.phase]
  locked := by simp only [Board.ended, h.locked]
  fit := hentries
  gathered {j found} hj := by
    rcases phase_ended_eq.1 hj with ⟨-, ⟨⟩⟩ | ⟨-, hj⟩
    exact h.gathered hj

variable (hstore : store.Serves fits holds)
  (hcutoff : ∀ i, ((recordings i).history store).cutoff = .ok (limit i))
  (hfits : ∀ i, fits (recordings i).entry)

include hstore hcutoff hfits

theorem Shows.step (h : board.Shows fits holds plain) (i : ι) :
    (board.step store recordings i).Shows fits holds (plain.move recordings limit i) := by
  unfold Board.step move
  rw [h.phase, h.locked]
  cases hphase : plain.phase i with
  | waiting =>
    dsimp only
    split
    · exact h
    · have hgather := gather_serves (h := (recordings i).history store) hstore (hcutoff i) h.store h.fit
        (recordings i).review
      have hput : ∀ entry ∈ (recordings i).put (limit i) plain.store, fits entry := by
        intro entry hentry
        rcases Recording.mem_of_mem_put hentry with rfl | hentry
        · exact hfits i
        · exact h.fit entry hentry
      rw [hgather.result]
      exact h.begun i hput hgather.state
  | gathered entries =>
    have hentries := h.gathered hphase
    exact h.ended i hentries (save_serves hstore h.store hentries).state
  | finished => exact h

theorem Shows.run (schedule : List ι) (h : board.Shows fits holds plain) :
    (board.run store recordings schedule).Shows fits holds (plain.moves recordings limit schedule) := by
  induction schedule generalizing board plain with
  | nil => exact h
  | cons i rest ih => exact ih (h.step hstore hcutoff hfits i)

end Simulation

end Board

end History

end CodeReview
