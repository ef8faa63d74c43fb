/-
Histories over different stores. Whatever is asked, two histories over stores that hold the same entries
give the same reply and then hold the same entries again (`Agree.perform`), so all along a run in which
only scans are recorded that a JSON text can hold, a file and a gist cannot be told from a document in
memory (`trace_eq_memory`).
-/
import CodeReview.Proofs.History.Operations
import CodeReview.Proofs.History.Retention
import CodeReview.Proofs.Json.Plain
import CodeReview.Proofs.Store.PlainName

namespace CodeReview

/-! ## What can be kept -/

/-- The issue can be read again from a JSON text: its integers have no more digits than are read, its texts split no
surrogate pair, and its place and message are not nested too deep for where they stand in the document. -/
structure Issue.IsLegible (issue : Issue) : Prop where
  line : Json.Legible (Json.maxDepth - 5) issue.line
  column : Json.Legible (Json.maxDepth - 5) issue.column
  message : Json.Legible (Json.maxDepth - 5) issue.message
  severity : Text.Unsplit issue.severity.toList
  rule : Text.Unsplit issue.rule.toList
  category : Text.Unsplit issue.category.toList

/-- The path of the file, the numbers of its scan and all the issues can be read again from a JSON text. -/
structure ScanResult.IsLegible (scan : ScanResult) : Prop where
  file : Text.Unsplit scan.file.toList
  count : Json.IsShort scan.issueCount
  complexity : Json.IsShort scan.metrics.complexity
  maintainability : Json.IsShort scan.metrics.maintainability
  duplication : Json.IsShort scan.metrics.duplication
  issues : ∀ issue ∈ scan.issues, issue.IsLegible

theorem Issue.IsLegible.toJson {issue : Issue} (h : issue.IsLegible) :
    Json.Legible (Json.maxDepth - 4) issue.toJson := by
  show Json.Legible (Json.maxDepth - 5 + 1) _
  refine .object (by simp) ?_ ?_
  · simp only [List.forall_mem_cons]
    exact ⟨by decide, by decide, by decide, by decide, by decide, by decide, List.forall_mem_nil _⟩
  · simp only [List.forall_mem_cons]
    exact ⟨h.line, h.column, h.message, .string h.severity, .string h.rule, .string h.category,
      List.forall_mem_nil _⟩

/-- The name of a file splits no more pairs than its path. -/
theorem Review.unsplit_nameOf {path : String} (h : Text.Unsplit path.toList) :
    Text.Unsplit (nameOf path).toList := by
  have hslashes : Text.Unsplit (Path.withSlashes path.toList) := h.map_replace (by decide)
  unfold nameOf Text.afterLast
  rw [String.toList_ofList]
  refine hslashes.suffix ?_
  exact List.reverse_prefix.1 (by simpa using List.takeWhile_prefix _)

theorem Review.unsplit_text (now : Moment) : Text.Unsplit (String.ofList now.text).toList := by
  rw [String.toList_ofList]
  exact Text.unsplit_of_forall fun c hc => Text.not_isFirstHalf_of_lt (Moment.lt_of_mem_text hc)

/-- The entry of a legible scan is legible. -/
theorem ScanResult.IsLegible.members {scan : ScanResult} (h : scan.IsLegible) (now : Moment) :
    Json.Legible (Json.maxDepth - 2) (.object (Review.ofScan now scan).members) := by
  have hissues : Json.Legible (Json.maxDepth - 4 + 1) (.array (scan.issues.map Issue.toJson)) := by
    refine .array fun item hitem => ?_
    obtain ⟨issue, hissue, rfl⟩ := List.mem_map.1 hitem
    exact (h.issues issue hissue).toJson
  have hmetrics : Json.Legible (Json.maxDepth - 4 + 1)
      (.object (Review.snapshotMembers (Review.ofScan now scan).metrics)) := by
    refine .object (by simp [Review.snapshotMembers]) ?_ ?_
    · simp only [Review.snapshotMembers, List.forall_mem_cons]
      exact ⟨by decide, by decide, by decide, List.forall_mem_nil _⟩
    · simp only [Review.snapshotMembers, List.forall_mem_cons]
      exact ⟨.int h.complexity, .int h.maintainability, .int h.duplication, List.forall_mem_nil _⟩
  show Json.Legible (Json.maxDepth - 3 + 1) _
  refine .object (by simp [Review.members]) ?_ ?_
  · simp only [Review.members, List.forall_mem_cons]
    exact ⟨by decide, by decide, by decide, by decide, by decide, by decide, List.forall_mem_nil _⟩
  · simp only [Review.members, List.forall_mem_cons]
    exact ⟨.string (Review.unsplit_text now), .string (Review.unsplit_nameOf h.file), .string h.file,
      .int h.count, hissues, hmetrics, List.forall_mem_nil _⟩

namespace History

variable {σ τ : Type} {first : Store σ} {second : Store τ} {retention : Value} {now : Moment} {s : σ}
  {t : τ}

/-! ## One reply -/

section Replies

variable (hload : (first.load s).result = (second.load t).result)

include hload

theorem entriesWith_congr (review : Review) : (History.mk first retention now).entriesWith s review =
    (History.mk second retention now).entriesWith t review := by
  unfold entriesWith
  rw [hload]
  rfl

theorem reviewsNow_congr :
    (History.mk first retention now).reviewsNow s = (History.mk second retention now).reviewsNow t := by
  unfold reviewsNow entriesNow
  rw [hload]
  rfl

/-- A reply depends on the store only for what is loaded and for whether it can be cleared. -/
theorem result_perform_congr (hclear : (first.clear s).result = (second.clear t).result)
    (operation : Operation) : ((History.mk first retention now).perform operation s).result =
      ((History.mk second retention now).perform operation t).result := by
  have hreviews : (History.mk first retention now).reviewsNow s =
      (History.mk second retention now).reviewsNow t := reviewsNow_congr hload
  rw [result_perform, result_perform]
  cases operation with
  | request request =>
    cases request with
    | record scan =>
      dsimp only
      rw [result_record, result_record, entriesWith_congr hload]
    | clear =>
      dsimp only
      rw [result_clear, result_clear, hclear]
    | reviews =>
      dsimp only
      rw [result_reviews, result_reviews, hreviews]
    | advance next => rfl
  | summarize =>
    dsimp only
    rw [result_summarize, result_summarize, hreviews]
  | exportCsv =>
    dsimp only
    rw [result_exportCsv, result_exportCsv, hreviews]
  | exportJson =>
    dsimp only
    rw [result_exportJson, result_exportJson, result_summarize, result_summarize, hreviews]

end Replies

/-! ## One operation -/

variable {holds : σ → List Kept → Prop} {holds' : τ → List Kept → Prop}

/-- The two states have the same entries, and these are legible. -/
def Agree (holds : σ → List Kept → Prop) (holds' : τ → List Kept → Prop) (s : σ) (t : τ) : Prop :=
  ∃ entries, Store.AreLegible entries ∧ holds s entries ∧ holds' t entries

/-- What is written when a review is recorded is legible if what was found is, and the review. -/
theorem areLegible_entriesWith {h : History σ} {entries kept : List Kept} {scan : ScanResult}
    (hload : (h.store.load s).result = .ok (Store.documentWith entries))
    (hlegible : Store.AreLegible entries) (hscan : scan.IsLegible)
    (hkept : h.entriesWith s (Review.ofScan h.now scan) = .ok kept) : Store.AreLegible kept := by
  obtain ⟨found, hfound, limit, -, rfl⟩ := (entriesWith_eq_ok_iff h s).1 hkept
  rw [hload] at hfound
  have hfound : entriesOf (Store.documentOf (entries.map .object)) = .ok found := hfound
  rw [entriesOf_documentOf] at hfound
  obtain rfl := Except.ok.inj hfound
  intro entry hentry
  rcases List.mem_cons.1 (List.mem_of_mem_filter hentry) with rfl | hentry
  · exact hscan.members h.now
  · exact hlegible entry hentry

section Step

variable (hfirst : first.KeepsEntries holds) (hsecond : second.KeepsEntries holds')

include hfirst hsecond

theorem Agree.load (h : Agree holds holds' s t) :
    (first.load s).result = (second.load t).result ∧
      Agree holds holds' (first.load s).state (second.load t).state := by
  obtain ⟨entries, hlegible, hs, ht⟩ := h
  have hloaded := hfirst.load hs hlegible
  have hloaded' := hsecond.load ht hlegible
  exact ⟨hloaded.result.trans hloaded'.result.symm, entries, hlegible, hloaded.state, hloaded'.state⟩

theorem Agree.clear (h : Agree holds holds' s t) :
    (first.clear s).result = (second.clear t).result ∧
      Agree holds holds' (first.clear s).state (second.clear t).state := by
  obtain ⟨entries, -, hs, ht⟩ := h
  have hcleared := hfirst.clear hs
  have hcleared' := hsecond.clear ht
  exact ⟨hcleared.result.trans hcleared'.result.symm, [], nofun, hcleared.state, hcleared'.state⟩

theorem Agree.record (h : Agree holds holds' s t) {scan : ScanResult}
    (hscan : scan.excluded = false → scan.IsLegible) :
    Agree holds holds' ((History.mk first retention now).record scan s).state
      ((History.mk second retention now).record scan t).state := by
  obtain ⟨hload, hagree⟩ := h.load hfirst hsecond
  have hwith : (History.mk first retention now).entriesWith s (Review.ofScan now scan) =
      (History.mk second retention now).entriesWith t (Review.ofScan now scan) :=
    entriesWith_congr hload _
  rw [state_record, state_record]
  cases hexcluded : scan.excluded with
  | true => exact h
  | false =>
    simp only [Bool.false_eq_true, if_false]
    rw [← hwith]
    cases hkept : (History.mk first retention now).entriesWith s (Review.ofScan now scan) with
    | error fault => exact hagree
    | ok kept =>
      obtain ⟨entries, hlegible, hs, ht⟩ := h
      have hnext := areLegible_entriesWith (hfirst.load hs hlegible).result hlegible
        (hscan hexcluded) hkept
      exact ⟨kept, hnext, (hfirst.save (hfirst.load hs hlegible).state hnext).state,
        (hsecond.save (hsecond.load ht hlegible).state hnext).state⟩

/-- An operation on states that agree gets the same reply and leaves states that agree. -/
theorem Agree.perform (h : Agree holds holds' s t) (retention : Value) (now : Moment) {operation : Operation}
    (hscans : ∀ scan, operation = .request (.record scan) → scan.excluded = false → scan.IsLegible) :
    ((History.mk first retention now).perform operation s).result =
        ((History.mk second retention now).perform operation t).result ∧
      Agree holds holds' ((History.mk first retention now).perform operation s).state
        ((History.mk second retention now).perform operation t).state := by
  obtain ⟨hload, hloaded⟩ := h.load hfirst hsecond
  obtain ⟨hclear, hcleared⟩ := h.clear hfirst hsecond
  refine ⟨result_perform_congr hload hclear operation, ?_⟩
  rw [state_perform, state_perform]
  cases operation with
  | request request =>
    cases request with
    | record scan => exact h.record hfirst hsecond (hscans scan rfl)
    | clear => exact hcleared
    | reviews => exact hloaded
    | advance next => exact h
  | summarize => exact hloaded
  | exportCsv => exact hloaded
  | exportJson => exact hloaded

end Step

/-! ## The first scan -/

section First

variable {store : Store σ} {limit : Moment} {scan : ScanResult} (hnow : now.Legible)
  (hbefore : limit.instant < now.instant) (hexcluded : scan.excluded = false)
include hnow hbefore

/-- The first scan that is recorded is the only entry. -/
theorem entriesWith_first (hcutoff : (History.mk store retention now).cutoff = .ok limit)
    (hload : (store.load s).result = .ok Store.emptyDocument) :
    (History.mk store retention now).entriesWith s (Review.ofScan now scan) =
      .ok [(Review.ofScan now scan).members] := by
  refine entriesWith_of_none _ s ?_ hcutoff ((isAfter_members_iff hnow scan).2 hbefore)
  rw [hload]
  rfl

/-- What is listed of a document with one entry. -/
theorem reviewsNow_single (hcutoff : (History.mk store retention now).cutoff = .ok limit)
    (hload : (store.load s).result = .ok (Store.documentWith [(Review.ofScan now scan).members])) :
    (History.mk store retention now).reviewsNow s = .ok [(Review.ofScan now scan).asRead] := by
  have hdocument : (store.load s).result =
      .ok (Store.documentOf ([(Review.ofScan now scan).members].map .object)) := hload
  rw [reviewsNow_of_documentOf hdocument hcutoff, objects_map_object,
    List.filter_cons_of_pos ((isAfter_members_iff hnow scan).2 hbefore), ← Review.ofMembers_members]
  simp

include hexcluded

/-- The replies to the first scan that is recorded, and then to the question for the reviews. -/
theorem result_trace_first (hcutoff : (History.mk store retention now).cutoff = .ok limit)
    (hload : (store.load s).result = .ok Store.emptyDocument) {reviews : List Review}
    (hlisted : (History.mk store retention now).reviewsNow
      (store.save (Store.documentWith [(Review.ofScan now scan).members]) (store.load s).state).state =
        .ok reviews) :
    (trace store retention now [.request (.record scan), .request .reviews] s).result =
      .ok [.ok (.answered (.recorded (some (Review.ofScan now scan)))),
        .ok (.answered (.listed reviews))] := by
  have hwith : (History.mk store retention now).entriesWith s (Review.ofScan now scan) =
      .ok [(Review.ofScan now scan).members] := entriesWith_first hnow hbefore hcutoff hload
  rw [result_trace_cons, result_trace_cons, result_perform, result_perform, state_perform]
  dsimp only [Operation.clock, Request.clock]
  have hrecorded : (History.mk store retention now).reviewsNow
      ((History.mk store retention now).record scan s).state = .ok reviews := by
    rw [state_record, hexcluded, hwith]
    exact hlisted
  rw [result_reviews, hrecorded, result_record, hexcluded, hwith]
  rfl

/-- A document in memory after the first scan. -/
theorem state_record_memory (hcutoff : (History.mk Memory.store retention now).cutoff = .ok limit) :
    ((History.mk Memory.store retention now).record scan ⟨Store.emptyDocument, false, false⟩).state =
      ⟨Store.documentWith [(Review.ofScan now scan).members], false, false⟩ := by
  rw [state_record, hexcluded, entriesWith_first hnow hbefore hcutoff rfl]
  rfl

/-- The replies of a document in memory: the review is listed, as it is read back. -/
theorem result_trace_memory (hcutoff : (History.mk Memory.store retention now).cutoff = .ok limit) :
    (trace Memory.store retention now [.request (.record scan), .request .reviews]
      ⟨Store.emptyDocument, false, false⟩).result =
      .ok [.ok (.answered (.recorded (some (Review.ofScan now scan)))),
        .ok (.answered (.listed [(Review.ofScan now scan).asRead]))] :=
  result_trace_first hnow hbefore hexcluded hcutoff rfl (reviewsNow_single hnow hbefore hcutoff rfl)

/-- The replies of a document in memory to a scan, a listing, an export, a clear and another listing. -/
theorem result_trace_memory_cleared (hcutoff : (History.mk Memory.store retention now).cutoff = .ok limit)
    {text : String} (hexported : ((History.mk Memory.store retention now).exportCsv
      ⟨Store.documentWith [(Review.ofScan now scan).members], false, false⟩).result = .ok text) :
    (trace Memory.store retention now [.request (.record scan), .request .reviews, .exportCsv,
      .request .clear, .request .reviews] ⟨Store.emptyDocument, false, false⟩).result =
      .ok [.ok (.answered (.recorded (some (Review.ofScan now scan)))),
        .ok (.answered (.listed [(Review.ofScan now scan).asRead])), .ok (.exported text),
        .ok (.answered (.cleared true)), .ok (.answered (.listed []))] := by
  have hrecorded := state_record_memory hnow hbefore hexcluded hcutoff
  have hlisted : (History.mk Memory.store retention now).reviewsNow
      ⟨Store.documentWith [(Review.ofScan now scan).members], false, false⟩ =
        .ok [(Review.ofScan now scan).asRead] := reviewsNow_single hnow hbefore hcutoff rfl
  have hcleared : (History.mk Memory.store retention now).reviewsNow ⟨Store.emptyDocument, false, false⟩ =
      .ok [] := reviewsNow_of_emptyDocument rfl hcutoff
  have hwith : (History.mk Memory.store retention now).entriesWith ⟨Store.emptyDocument, false, false⟩
      (Review.ofScan now scan) = .ok [(Review.ofScan now scan).members] :=
    entriesWith_first hnow hbefore hcutoff rfl
  have hload (document : Json) :
      (Memory.store.load ⟨document, false, false⟩).state = ⟨document, false, false⟩ := rfl
  have hclear (document : Json) :
      (Memory.store.clear ⟨document, false, false⟩).state = ⟨Store.emptyDocument, false, false⟩ := rfl
  -- the document is the one recorded until it is cleared
  simp only [result_trace_cons, result_perform, state_perform, Operation.clock, Request.clock, hrecorded,
    result_record, hexcluded, hwith, hload, hclear, result_reviews, hlisted, hexported, hcleared, result_clear]
  rfl

end First

/-! ## A run -/

/-- States that agree are not told apart by any run in which the scans that are recorded are legible. -/
theorem Agree.trace (hfirst : first.KeepsEntries holds) (hsecond : second.KeepsEntries holds')
    {operations : List Operation}
    (hscans : ∀ scan, .request (.record scan) ∈ operations → scan.excluded = false → scan.IsLegible)
    (h : Agree holds holds' s t) : (History.trace first retention now operations s).result =
      (History.trace second retention now operations t).result := by
  induction operations generalizing now s t with
  | nil => rfl
  | cons operation rest ih =>
    obtain ⟨hreply, hnext⟩ := h.perform hfirst hsecond retention now
      fun scan heq => hscans scan (heq ▸ List.mem_cons_self ..)
    rw [result_trace_cons, result_trace_cons, hreply,
      ih (fun scan hscan => hscans scan (List.mem_cons_of_mem _ hscan)) hnext]

/-- A disk with an empty directory is ready for a history in it. -/
theorem isReady_in_directory :
    JsonFile.IsReady (Path.ofString ".scanlens/history.json") ⟨0, [".scanlens", "history.json.tmp"]⟩
      [".scanlens"] ⟨[(".scanlens", .directory [])], []⟩ where
  proper := Entry.isProper_directory_singleton _ Disk.isProper_directory_nil
  parent := (Disk.place_text_eq_ok_iff (p := ⟨0, [".scanlens"]⟩) (by decide)).2
    ⟨⟨by decide, by decide⟩, ⟨_, rfl⟩, rfl⟩
  directory := ⟨[], rfl⟩
  place := (Disk.place_text_eq_ok_iff (p := ⟨0, [".scanlens", "history.json"]⟩) (by decide)).2
    ⟨⟨by decide, by decide⟩, ⟨_, rfl⟩, rfl⟩
  draft := rfl
  draft_place := (Disk.place_text_eq_ok_iff (p := ⟨0, [".scanlens", "history.json.tmp"]⟩)
    (by decide)).2 ⟨⟨by decide, by decide⟩, ⟨_, rfl⟩, rfl⟩
  free := Disk.not_hasDirectory_of_at?_eq_none rfl
  draft_free := Disk.not_hasDirectory_of_at?_eq_none rfl

/-- Where the review was not saved it is not listed. -/
theorem trace_ne_of_unsaved {store : Store σ} {limit : Moment} {scan : ScanResult} (hnow : now.Legible)
    (hcutoff : (History.mk store retention now).cutoff = .ok limit) (hbefore : limit.instant < now.instant)
    (hload : (store.load s).result = .ok Store.emptyDocument) (hexcluded : scan.excluded = false)
    (hleft : (store.load (store.save (Store.documentWith [(Review.ofScan now scan).members])
      (store.load s).state).state).result = .ok Store.emptyDocument) :
    (trace store retention now [.request (.record scan), .request .reviews] s).result ≠
      (trace Memory.store retention now [.request (.record scan), .request .reviews]
        ⟨Store.emptyDocument, false, false⟩).result := by
  rw [result_trace_first hnow hbefore hexcluded hcutoff hload (reviewsNow_of_emptyDocument hleft hcutoff),
    result_trace_memory hnow hbefore hexcluded hcutoff]
  simp

/-- A file whose name leaves no room for that of the draft does not list the review. -/
theorem trace_ne_of_longName {limit : Moment} {scan : ScanResult} (hnow : now.Legible)
    (hcutoff : (History.mk (JsonFile.store ⟨0, [JsonFile.longName]⟩) retention now).cutoff = .ok limit)
    (hbefore : limit.instant < now.instant) (hexcluded : scan.excluded = false) :
    (trace (JsonFile.store ⟨0, [JsonFile.longName]⟩) retention now
        [.request (.record scan), .request .reviews] ⟨[], []⟩).result ≠
      (trace Memory.store retention now [.request (.record scan), .request .reviews]
        ⟨Store.emptyDocument, false, false⟩).result := by
  have hplace := JsonFile.isPlainName_longName.place_iff.2
    ⟨by rw [JsonFile.toList_longName, List.length_replicate]; decide, rfl⟩
  have hloaded : (JsonFile.load ⟨0, [JsonFile.longName]⟩).Yields ⟨[], []⟩ Store.emptyDocument
      (· = ⟨[], []⟩) := JsonFile.load_of_absent (Disk.has_of_at?_eq_none hplace rfl)
  refine trace_ne_of_unsaved hnow hcutoff hbefore hloaded.result hexcluded ?_
  show (JsonFile.load _ (JsonFile.save _ _ (JsonFile.load _ _).state).state).result = _
  rw [hloaded.state, (JsonFile.save_longName _).2]
  exact hloaded.result

/-- Nor does a gist list a review that cannot be written. -/
theorem trace_ne_of_unwritten {gist : Value} {limit : Moment} {scan : ScanResult} (hnow : now.Legible)
    (hcutoff : (History.mk (Gist.store gist) retention now).cutoff = .ok limit)
    (hbefore : limit.instant < now.instant) (hexcluded : scan.excluded = false)
    (obstacle : Json.WriteError) (hobstacle :
      (Store.documentWith [(Review.ofScan now scan).members]).obstacle? Json.maxDepth = some obstacle) :
    (trace (Gist.store gist) retention now [.request (.record scan), .request .reviews]
        ⟨none, true, []⟩).result ≠
      (trace Memory.store retention now [.request (.record scan), .request .reviews]
        ⟨Store.emptyDocument, false, false⟩).result := by
  have hwrite : Json.write (Store.documentWith [(Review.ofScan now scan).members]) = .error obstacle := by
    rw [Json.write, hobstacle]
  refine trace_ne_of_unsaved hnow hcutoff hbefore rfl hexcluded ?_
  obtain ⟨-, hreachable, hcontent⟩ := Gist.save_of_not_written gist
    (rfl : (GistService.mk none true [.fetched gist]).reachable = true) hwrite
  exact (Gist.load_yields gist ⟨hreachable, .inl ⟨hcontent, rfl⟩⟩ nofun).result

/-- A gist lists the review that the text of the new entry stands for, if that is legible. -/
theorem result_trace_gist {gist : Value} {calls : List GistCall} {limit : Moment} {scan read : ScanResult}
    (hnow : now.Legible) (hcutoff : (History.mk (Gist.store gist) retention now).cutoff = .ok limit)
    (hbefore : limit.instant < now.instant) (hexcluded : scan.excluded = false) (hlegible : read.IsLegible)
    (hwrite : Json.write (Store.documentWith [(Review.ofScan now scan).members]) =
      .ok (Store.documentWith [(Review.ofScan now read).members]).text) :
    (trace (Gist.store gist) retention now [.request (.record scan), .request .reviews]
      ⟨none, true, calls⟩).result =
      .ok [.ok (.answered (.recorded (some (Review.ofScan now scan)))),
        .ok (.answered (.listed [(Review.ofScan now read).asRead]))] := by
  have hentries : Store.AreLegible [(Review.ofScan now read).members] :=
    List.forall_mem_singleton.2 (hlegible.members now)
  have hempty := Gist.load_yields gist (⟨rfl, .inl ⟨rfl, rfl⟩⟩ : Gist.Holds ⟨none, true, calls⟩ []) nofun
  have hsaved := Gist.save_yields gist hempty.state.1 hwrite rfl
  have hloaded := Gist.load_yields_of_hasText gist hsaved.state (Store.legible_documentWith hentries) rfl
  exact result_trace_first hnow hbefore hexcluded hcutoff hempty.result
    (reviewsNow_single hnow hbefore hcutoff hloaded.result)

end History

end CodeReview
