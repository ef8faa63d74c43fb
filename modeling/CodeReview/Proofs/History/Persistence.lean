/-
What becomes of the entries that are kept while the storage fails now and then. A history that cannot be
read counts as empty, so a review recorded then is all that is kept (`overwritten_record`); but for that, an
entry goes only when it expires or when all is cleared (`mem_persisted_or_dropped`).
-/
import CodeReview.Proofs.History.Operations
import CodeReview.Proofs.Store.Faulty

namespace CodeReview.History

/-- The entries of a document; one that holds no reviews has none. -/
def entriesIn (document : Json) : List Kept :=
  match entriesOf document with
  | .ok entries => entries
  | .error _ => []

theorem entriesIn_documentOf (entries : List Kept) :
    entriesIn (Store.documentOf (entries.map .object)) = entries := by
  unfold entriesIn
  rw [entriesOf_documentOf]

variable {σ : Type} {store : Store σ} {retention : Value} {persisted : σ → Json}

/-- How an operation comes to drop an entry of the document in the state `s`. -/
inductive Drops (h : History σ) (s : σ) (entry : Kept) : Operation → Prop where
  /-- The entry has expired when a review is recorded. -/
  | expired {scan : ScanResult} {limit : Moment} (hcutoff : h.cutoff = .ok limit)
      (hexpired : isAfter limit entry = false) : Drops h s entry (.request (.record scan))
  | cleared (hclear : (h.store.clear s).result = .ok ()) : Drops h s entry (.request .clear)
  /-- The document cannot be read when a review is recorded, and can be written. -/
  | overwritten {scan : ScanResult} {fault : Fault} {entries : List Kept}
      (hload : (h.store.load s).result = .error fault)
      (hentries : h.entriesWith s (Review.ofScan h.now scan) = .ok entries)
      (hsave : (h.store.save (Store.documentOf (entries.map .object))
        (h.store.load s).state).result = .ok ()) : Drops h s entry (.request (.record scan))

/-! ## One operation -/

section Step

variable {h : History σ} {s : σ} {scan : ScanResult} (hstore : h.store.IsAtomic persisted)

include hstore

/-- A review that is recorded leaves the document alone, or the document holds what was found and is
inside the window, after the new review. -/
theorem persisted_record (scan : ScanResult) : persisted (h.record scan s).state = persisted s ∨
    ∃ entries, h.entriesWith s (Review.ofScan h.now scan) = .ok entries ∧
      (h.store.save (Store.documentOf (entries.map .object)) (h.store.load s).state).result = .ok () ∧
      persisted (h.record scan s).state = Store.documentOf (entries.map .object) := by
  rw [state_record]
  split
  · exact .inl rfl
  cases hentries : h.entriesWith s (Review.ofScan h.now scan) with
  | error fault => exact .inl (hstore.load_state s)
  | ok entries =>
    dsimp only
    rw [hstore.save]
    cases hsave : (h.store.save (Store.documentOf (entries.map .object))
        (h.store.load s).state).result with
    | error fault => exact .inl (hstore.load_state s)
    | ok _ => exact .inr ⟨entries, rfl, hsave, rfl⟩

/-- What is found in a store that can be read is what it holds. -/
theorem entriesFound_eq {entries : List Kept} {document : Json}
    (hload : (h.store.load s).result = .ok document)
    (hfound : entriesFound (h.store.load s).result = .ok entries) :
    entriesIn (persisted s) = entries := by
  rw [hload] at hfound
  have hdocument := hstore.load_result hload
  subst hdocument
  have hfound : entriesOf (persisted s) = .ok entries := hfound
  unfold entriesIn
  rw [hfound]

theorem mem_persisted_record {entry : Kept} (hentry : entry ∈ entriesIn (persisted s)) :
    entry ∈ entriesIn (persisted (h.record scan s).state) ∨
      h.Drops s entry (.request (.record scan)) := by
  rcases persisted_record hstore scan with hsame | ⟨kept, hkept, hsave, hnext⟩
  · rw [hsame]
    exact .inl hentry
  cases hload : (h.store.load s).result with
  | error fault => exact .inr (.overwritten hload hkept hsave)
  | ok document =>
    rw [hnext, entriesIn_documentOf]
    obtain ⟨entries, hfound, limit, hcutoff, rfl⟩ := (entriesWith_eq_ok_iff h s).1 hkept
    rw [entriesFound_eq hstore hload hfound] at hentry
    cases hafter : isAfter limit entry with
    | false => exact .inr (.expired hcutoff hafter)
    | true => exact .inl (List.mem_filter.2 ⟨List.mem_cons_of_mem _ hentry, hafter⟩)

/-- An entry is still in the document after an operation that does not drop it. -/
theorem mem_persisted_perform {entry : Kept} (hentry : entry ∈ entriesIn (persisted s))
    (operation : Operation) :
    entry ∈ entriesIn (persisted (h.perform operation s).state) ∨ h.Drops s entry operation := by
  have hload : entry ∈ entriesIn (persisted (h.store.load s).state) := by
    rw [hstore.load_state]
    exact hentry
  rw [state_perform]
  cases operation with
  | request request =>
    cases request with
    | record scan => exact mem_persisted_record hstore hentry
    | clear =>
      dsimp only
      rw [hstore.clear]
      cases hclear : (h.store.clear s).result with
      | ok _ => exact .inr (.cleared hclear)
      | error fault => exact .inl hentry
    | reviews => exact .inl hload
    | advance now => exact .inl hentry
  | summarize => exact .inl hload
  | exportCsv => exact .inl hload
  | exportJson => exact .inl hload

/-- A review that is recorded where the document cannot be read and can be written is all that the
document then holds, if it is inside the window. -/
theorem overwritten_record {fault : Fault} {limit : Moment} (hexcluded : scan.excluded = false)
    (hload : (h.store.load s).result = .error fault) (hcutoff : h.cutoff = .ok limit)
    (hsave : (h.store.save (Store.documentOf
      (([(Review.ofScan h.now scan).members].filter (isAfter limit)).map .object))
      (h.store.load s).state).result = .ok ()) :
    entriesIn (persisted (h.record scan s).state) =
      [(Review.ofScan h.now scan).members].filter (isAfter limit) := by
  have hentries : h.entriesWith s (Review.ofScan h.now scan) =
      .ok ([(Review.ofScan h.now scan).members].filter (isAfter limit)) := by
    unfold entriesWith
    rw [hload, hcutoff]
    rfl
  rw [state_record, hexcluded, hentries]
  simp only [Bool.false_eq_true, if_false]
  rw [hstore.save, hsave]
  exact entriesIn_documentOf _

end Step

/-! ## A run -/

theorem mem_persisted_trace (hstore : store.IsAtomic persisted) {entry : Kept}
    (operations : List Operation) (now : Moment) (s : σ) (hentry : entry ∈ entriesIn (persisted s)) :
    entry ∈ entriesIn (persisted (trace store retention now operations s).state) ∨
      ∃ before operation after, operations = before ++ operation :: after ∧
        (History.mk store retention (Operation.clockAfter now before)).Drops
          (trace store retention now before s).state entry operation := by
  -- the entry is followed from the first operation on, up to the one that drops it
  induction operations generalizing now s with
  | nil => exact .inl hentry
  | cons operation rest ih =>
    rcases mem_persisted_perform (h := ⟨store, retention, now⟩) hstore hentry operation with
      hnext | hdropped
    · rw [state_trace_cons]
      rcases ih (operation.clock now) _ hnext with hlast | ⟨before, last, after, rfl, hdropped⟩
      · exact .inl hlast
      · refine .inr ⟨operation :: before, last, after, rfl, ?_⟩
        rw [state_trace_cons]
        exact hdropped
    · exact .inr ⟨[], operation, rest, rfl, hdropped⟩

/-- Over a store whose operations may fail, each anew, an entry of the document stays in it over any run
unless it has expired when a review is recorded, all is cleared, or a review is recorded while the
document cannot be read and can be written. Then the document holds no other review. -/
theorem mem_persisted_or_dropped (hstore : store.IsAtomic persisted) (now : Moment)
    (operations : List Operation) (s : σ) {entry : Kept} (hentry : entry ∈ entriesIn (persisted s)) :
    (entry ∈ entriesIn (persisted (trace store retention now operations s).state) ∨
      ∃ before operation after, operations = before ++ operation :: after ∧
        (History.mk store retention (Operation.clockAfter now before)).Drops
          (trace store retention now before s).state entry operation) ∧
    ∀ (h : History σ) (s : σ) (scan : ScanResult) (fault : Fault) (limit : Moment), h.store = store →
      scan.excluded = false → (h.store.load s).result = .error fault → h.cutoff = .ok limit →
      (h.store.save (Store.documentOf
        (([(Review.ofScan h.now scan).members].filter (isAfter limit)).map .object))
        (h.store.load s).state).result = .ok () →
      entriesIn (persisted (h.record scan s).state) =
        [(Review.ofScan h.now scan).members].filter (isAfter limit) := by
  refine ⟨mem_persisted_trace hstore operations now s hentry, ?_⟩
  rintro h s scan fault limit rfl hexcluded hload hcutoff hsave
  exact overwritten_record hstore hexcluded hload hcutoff hsave

/-- A write that fails loses nothing: the document can be read, but the new review
cannot be added to it. -/
theorem mem_persisted_or_dropped_of_unwritten :
    let now : Moment := ⟨⟨2026, 1, 2⟩, 0, 0, 0, 0, some 0⟩
    let old := (Review.ofScan ⟨⟨2026, 1, 1⟩, 0, 0, 0, 0, some 0⟩ { file := "a.js" }).members
    let flaky : Flaky := ⟨Store.documentOf [.object old], [false, true]⟩
    old ∈ entriesIn flaky.document ∧ old ∈ entriesIn (trace Flaky.store (.int 30) now
      [.request (.record { file := "b.js" })] flaky).state.document := by
  intro now old flaky
  have hold : old ∈ entriesIn flaky.document := List.mem_singleton_self _
  refine ⟨hold, ?_⟩
  have hafter : isAfter ⟨⟨2025, 12, 3⟩, 0, 0, 0, 0, some 0⟩ old = true := by decide +kernel
  have hcutoff : (History.mk Flaky.store (.int 30) now).cutoff =
      .ok ⟨⟨2025, 12, 3⟩, 0, 0, 0, 0, some 0⟩ := cutoff_of_earlier rfl (by decide +kernel) _
  have hload : (Flaky.store.load flaky).result = .ok flaky.document := rfl
  rcases (mem_persisted_or_dropped Flaky.isAtomic now [.request (.record { file := "b.js" })] flaky
    hold).1 with hkept | ⟨before, operation, after, hrun, hdropped⟩
  · exact hkept
  · obtain ⟨rfl, hrest⟩ | ⟨_, hbefore, hrest⟩ := List.cons_eq_append_iff.1 hrun
    · obtain ⟨rfl, rfl⟩ := List.cons.inj hrest
      cases hdropped with
      | expired hlimit hexpired =>
        rw [← Except.ok.inj (hcutoff.symm.trans hlimit), hafter] at hexpired
        cases hexpired
      | overwritten hfault _ _ =>
        cases hload.symm.trans hfault
    · simp at hrest

/-- A review of the day before is lost when the document cannot be read once and can be written. -/
theorem not_mem_persisted_of_unread :
    let now : Moment := ⟨⟨2026, 1, 2⟩, 0, 0, 0, 0, some 0⟩
    let old := (Review.ofScan ⟨⟨2026, 1, 1⟩, 0, 0, 0, 0, some 0⟩ { file := "a.js" }).members
    let flaky : Flaky := ⟨Store.documentOf [.object old], [true, false]⟩
    Flaky.store.IsAtomic Flaky.document ∧ old ∈ entriesIn flaky.document ∧
      (∃ limit, (History.mk Flaky.store (.int 30) now).cutoff = .ok limit ∧
        isAfter limit old = true) ∧
      old ∉ entriesIn (trace Flaky.store (.int 30) now
        [.request (.record { file := "b.js" })] flaky).state.document := by
  intro now old flaky
  have hcutoff : (History.mk Flaky.store (.int 30) now).cutoff =
      .ok ⟨⟨2025, 12, 3⟩, 0, 0, 0, 0, some 0⟩ := cutoff_of_earlier rfl (by decide +kernel) _
  refine ⟨Flaky.isAtomic, List.mem_singleton_self _, ⟨_, hcutoff, by decide +kernel⟩, ?_⟩
  have hsave (document : Json) :
      (Flaky.store.save document (Flaky.store.load flaky).state).result = .ok () := rfl
  have hleft (scan : ScanResult) (hexcluded : scan.excluded = false) :
      entriesIn (trace Flaky.store (.int 30) now [.request (.record scan)] flaky).state.document =
        [(Review.ofScan now scan).members].filter (isAfter ⟨⟨2025, 12, 3⟩, 0, 0, 0, 0, some 0⟩) := by
    rw [state_trace_cons, state_perform]
    exact overwritten_record Flaky.isAtomic hexcluded rfl hcutoff (hsave _)
  rw [hleft _ rfl]
  intro hmem
  have hsame : old = (Review.ofScan now { file := "b.js" }).members :=
    List.mem_singleton.1 (List.mem_filter.1 hmem).1
  have hpath := congrArg (Json.lookup "file_path") hsame
  simp [old, Review.members, Review.ofScan, Json.lookup] at hpath

end CodeReview.History
