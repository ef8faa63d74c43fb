/-
Reviews as they are read back from what was kept of them. All of a review comes back as it was but the
places and messages of its issues, which can be any values and come back as integers and texts
(`Review.ofMembers_members`).
-/
import CodeReview.History.Review
import CodeReview.Proofs.Time.Notation

namespace CodeReview

namespace Issue

/-- The place is given by integers, and the message is a text. -/
structure IsTyped (i : Issue) : Prop where
  line : ∃ n, i.line = .int n
  column : ∃ n, i.column = .int n
  message : ∃ text, i.message = .string text

/-- The issue as it is read back. -/
def asRead (i : Issue) : Issue where
  line := .int ((Review.integerOf? i.line).getD 1)
  column := .int ((Review.integerOf? i.column).getD 1)
  message := .string i.message.display
  severity := i.severity
  rule := i.rule
  category := i.category

theorem isTyped_asRead (i : Issue) : i.asRead.IsTyped := ⟨⟨_, rfl⟩, ⟨_, rfl⟩, ⟨_, rfl⟩⟩

theorem asRead_eq_self_iff {i : Issue} : i.asRead = i ↔ i.IsTyped := by
  constructor
  · intro h
    rw [← h]
    exact i.isTyped_asRead
  · obtain ⟨line, column, message, severity, rule, category⟩ := i
    rintro ⟨⟨n, rfl⟩, ⟨m, rfl⟩, ⟨text, rfl⟩⟩
    rfl

end Issue

/-- What the rules report has integers and texts in the right places. -/
theorem Finding.isTyped_toIssue (f : Finding) : f.toIssue.IsTyped := ⟨⟨_, rfl⟩, ⟨_, rfl⟩, ⟨_, rfl⟩⟩

namespace Review

/-- The review as it is read back. -/
def asRead (r : Review) : Review := { r with issues := r.issues.map Issue.asRead }

theorem asRead_eq_self_iff {r : Review} : r.asRead = r ↔ ∀ i ∈ r.issues, i.IsTyped := by
  obtain ⟨timestamp, fileName, filePath, issueCount, issues, metrics⟩ := r
  simp only [asRead, mk.injEq, true_and, and_true]
  induction issues with
  | nil => simp
  | cons i issues ih => rw [List.map_cons, List.cons.injEq, ih, List.forall_mem_cons,
      Issue.asRead_eq_self_iff]

/-! ## Members -/

theorem issuesOf_toJson (issues : List Issue) :
    issuesOf (issues.map Issue.toJson) = issues.map Issue.asRead := by
  induction issues with
  | nil => rfl
  | cons i issues ih =>
    unfold issuesOf at ih ⊢
    rw [List.map_cons, List.filterMap_cons, ih]
    rfl

/-- A text that is empty counts as absent, and is read as empty. -/
theorem filled_string (text : String) :
    (if (Json.string text).isEmpty then "" else (Json.string text).display) = text := by
  have hempty : (Json.string text).isEmpty = text.isEmpty := rfl
  have hdisplay : (Json.string text).display = text := rfl
  rw [hempty, hdisplay]
  split
  · next h => exact (String.isEmpty_iff.1 h).symm
  · rfl

/-- A review is read back from its members. -/
theorem ofMembers_members (r : Review) : ofMembers r.members = r.asRead := by
  have hname : filledAt "file_name" r.members = r.fileName := filled_string r.fileName
  have hpath : filledAt "file_path" r.members = r.filePath := filled_string r.filePath
  have hissues : Json.lookup "issues" r.members = some (.array (r.issues.map Issue.toJson)) := rfl
  unfold ofMembers
  rw [hname, hpath, hissues]
  dsimp only
  rw [issuesOf_toJson]
  rfl

/-! ## Moments -/

/-- The timestamp of a review names the moment at which the scan was recorded. -/
theorem momentOf?_ofScan {now : Moment} (h : now.Legible) (scan : ScanResult) :
    momentOf? (ofScan now scan).timestamp = some now := by
  obtain ⟨offset, hoffset, -⟩ := h.offset
  -- no character is replaced
  have hchars : ∀ c ∈ now.text,
      (if c = 'Z' then "+00:00".toList else [c]) = [c] := by
    intro c hc
    rw [if_neg]
    rintro rfl
    exact Moment.zulu_not_mem_text hoffset hc
  unfold momentOf? ofScan
  simp only [String.toList_ofList]
  rw [List.flatMap_congr hchars, List.flatMap_singleton', Moment.read?_text h, Option.map_some,
    Moment.orUtc, hoffset, Option.getD_some, ← hoffset]

end Review

end CodeReview
