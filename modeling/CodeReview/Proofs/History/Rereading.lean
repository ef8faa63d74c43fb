/-
Reviews read from anything. An object may hold any values in the places of a review; what is read from
it has an integer where a number belongs and a text where a text belongs, and one issue for each object
among the issues, in their order (`isReadFrom_ofMembers`). So much is enough for a review to come back
as it was (`ofJson_toJson_iff`): reading settles a review, and reading it again changes nothing more
(`ofJson_settles`).
-/
import CodeReview.History.Basic
import CodeReview.Proofs.History.Reading
import Mathlib.Data.List.Forall2
import Mathlib.Data.Rat.Floor

namespace CodeReview

/-! ## Counts -/

/-- The integer part of a rational is next to it on the side of zero. -/
theorem Double.split_fst (q : ℚ) : (Double.split q).1 = if 0 ≤ q then ⌊q⌋ else ⌈q⌉ := by
  have htoward : (Double.split q).1 = Int.tdiv q.num q.den := rfl
  rw [htoward]
  split_ifs with hsign
  · rw [Int.tdiv_eq_ediv_of_nonneg (Rat.num_nonneg.2 hsign), Rat.floor_def']
  · have hnum : 0 ≤ -q.num := by
      have := Rat.num_neg.2 (not_le.1 hsign)
      omega
    have hflip : Int.tdiv q.num q.den = -Int.tdiv (-q.num) q.den := by rw [Int.neg_tdiv, neg_neg]
    rw [hflip, Int.tdiv_eq_ediv_of_nonneg hnum, Rat.ceil_def']

namespace Json

/-- The value counts as an integer: a truth value as zero or one, a finite number without what follows
its point, and a text as the integer that it spells out. -/
inductive CountsAs : Json → ℤ → Prop
  | bool (b : Bool) : CountsAs (.bool b) b.toNat
  | int (n : ℤ) : CountsAs (.int n) n
  | float {x : Double} {q : ℚ} (hfinite : x.toRat? = some q) :
      CountsAs (.float x) (if 0 ≤ q then ⌊q⌋ else ⌈q⌉)
  | string {s : String} {n : ℤ} (hspells : Integer.ofText? s.toList = some n) : CountsAs (.string s) n

theorem integerOf?_float (x : Double) :
    Review.integerOf? (.float x) = x.toRat?.map fun q => if 0 ≤ q then ⌊q⌋ else ⌈q⌉ := by
  cases x with
  | finite q => exact congrArg some (Double.split_fst q)
  | _ => rfl

theorem integerOf?_eq_some_iff {value : Json} {n : ℤ} :
    Review.integerOf? value = some n ↔ value.CountsAs n := by
  constructor
  · intro h
    cases value with
    | null | array | object => cases h
    | bool b =>
      cases h
      cases b <;> exact .bool _
    | int i =>
      obtain rfl := Option.some.inj h
      exact .int i
    | float x =>
      rw [integerOf?_float] at h
      obtain ⟨q, hfinite, rfl⟩ := Option.map_eq_some_iff.1 h
      exact .float hfinite
    | string s => exact .string h
  · intro h
    cases h with
    | bool b => cases b <;> rfl
    | int => rfl
    | float hfinite => rw [integerOf?_float, hfinite, Option.map_some]
    | string hspells => exact hspells

end Json

namespace Review

variable {members : List (String × Json)}

/-- The number that the member stands for: what its value counts as, or the default where the member is
missing or counts as no integer. -/
def IsCount (key : String) (default : ℤ) (members : List (String × Json)) (n : ℤ) : Prop :=
  (∃ value, Json.lookup key members = some value ∧ value.CountsAs n) ∨
    n = default ∧ ∀ value m, Json.lookup key members = some value → ¬ value.CountsAs m

theorem isCount_integerAt (key : String) (default : ℤ) :
    IsCount key default members (integerAt key default members) := by
  unfold integerAt
  cases hvalue : Json.lookup key members with
  | none => exact .inr ⟨rfl, fun _ _ h => nomatch hvalue.symm.trans h⟩
  | some value =>
    rw [Option.bind_some]
    cases hn : integerOf? value with
    | some n => exact .inl ⟨value, hvalue, Json.integerOf?_eq_some_iff.1 hn⟩
    | none =>
      refine .inr ⟨rfl, fun other m hother hcounts => ?_⟩
      obtain rfl := Option.some.inj (hvalue.symm.trans hother)
      rw [Json.integerOf?_eq_some_iff.2 hcounts] at hn
      cases hn

end Review

/-! ## Reviews -/

/-- The issue has what the members say: its place in integers and all else in texts. -/
structure Issue.IsReadFrom (members : List (String × Json)) (i : Issue) : Prop where
  line : ∃ n, i.line = .int n ∧ Review.IsCount "line" 1 members n
  column : ∃ n, i.column = .int n ∧ Review.IsCount "column" 1 members n
  message : i.message = .string (Review.textAt "message" "" members)
  severity : i.severity = Review.textAt "severity" "info" members
  rule : i.rule = Review.textAt "rule" "unknown" members
  category : i.category = Review.textAt "category" "style" members

theorem Issue.IsReadFrom.isTyped {members : List (String × Json)} {i : Issue}
    (h : i.IsReadFrom members) : i.IsTyped where
  line := h.line.imp fun _ => And.left
  column := h.column.imp fun _ => And.left
  message := ⟨_, h.message⟩

namespace Review

variable {members : List (String × Json)}

theorem isReadFrom_issueOf : (issueOf members).IsReadFrom members where
  line := ⟨_, rfl, isCount_integerAt "line" 1⟩
  column := ⟨_, rfl, isCount_integerAt "column" 1⟩
  message := rfl
  severity := rfl
  rule := rfl
  category := rfl

/-- The objects in the list under `issues`; without such a list there are none. -/
def issueEntries (members : List (String × Json)) : List (List (String × Json)) :=
  match Json.lookup "issues" members with
  | some (.array items) => History.objects items
  | _ => []

/-- The members of the object under `metrics`; without such an object there are none. -/
def metricEntries (members : List (String × Json)) : List (String × Json) :=
  match Json.lookup "metrics" members with
  | some (.object metrics) => metrics
  | _ => []

/-- The review has what the members say, with one issue for each object among the issues. -/
structure IsReadFrom (members : List (String × Json)) (r : Review) : Prop where
  timestamp : r.timestamp = (Json.lookup "timestamp" members).getD (.string "")
  fileName : r.fileName = filledAt "file_name" members
  filePath : r.filePath = filledAt "file_path" members
  issueCount : IsCount "issue_count" 0 members r.issueCount
  issues : List.Forall₂ Issue.IsReadFrom (issueEntries members) r.issues
  complexity : IsCount "complexity" 0 (metricEntries members) r.metrics.complexity
  maintainability : IsCount "maintainability" 0 (metricEntries members) r.metrics.maintainability
  duplication : IsCount "duplication" 0 (metricEntries members) r.metrics.duplication

theorem forall₂_issuesOf (items : List Json) :
    List.Forall₂ Issue.IsReadFrom (History.objects items) (issuesOf items) := by
  induction items with
  | nil => exact .nil
  | cons item items ih =>
    cases item with
    | object entry => exact .cons isReadFrom_issueOf ih
    | _ => exact ih

theorem forall₂_ofMembers :
    List.Forall₂ Issue.IsReadFrom (issueEntries members) (ofMembers members).issues := by
  show List.Forall₂ _ _ (match Json.lookup "issues" members with
    | some (.array items) => issuesOf items
    | _ => [])
  unfold issueEntries
  cases Json.lookup "issues" members with
  | none => exact .nil
  | some value =>
    cases value with
    | array items => exact forall₂_issuesOf items
    | _ => exact .nil

theorem snapshotOf_metricEntries :
    (ofMembers members).metrics = snapshotOf (metricEntries members) := by
  show (match Json.lookup "metrics" members with
    | some (.object metrics) => snapshotOf metrics
    | _ => {}) = _
  unfold metricEntries
  cases Json.lookup "metrics" members with
  | none => rfl
  | some value => cases value <;> rfl

theorem isReadFrom_ofMembers : (ofMembers members).IsReadFrom members where
  timestamp := rfl
  fileName := rfl
  filePath := rfl
  issueCount := isCount_integerAt "issue_count" 0
  issues := forall₂_ofMembers
  complexity := snapshotOf_metricEntries ▸ isCount_integerAt "complexity" 0
  maintainability := snapshotOf_metricEntries ▸ isCount_integerAt "maintainability" 0
  duplication := snapshotOf_metricEntries ▸ isCount_integerAt "duplication" 0

theorem IsReadFrom.isTyped {r : Review} (h : r.IsReadFrom members) : ∀ i ∈ r.issues, i.IsTyped := by
  have hall {entries : List History.Kept} {issues : List Issue}
      (hissues : List.Forall₂ Issue.IsReadFrom entries issues) : ∀ i ∈ issues, i.IsTyped := by
    induction hissues with
    | nil => exact fun _ hi => nomatch hi
    | cons hentry _ ih => exact List.forall_mem_cons.2 ⟨hentry.isTyped, ih⟩
  exact hall h.issues

/-! ## Reading again -/

/-- A review comes back as it was exactly if the places and messages of its issues are integers and
texts; all else about it is what it has to be. -/
theorem ofJson_toJson_iff {r : Review} : ofJson r.toJson = .ok r ↔ ∀ i ∈ r.issues, i.IsTyped := by
  have hread : ofJson r.toJson = .ok r.asRead := congrArg Except.ok r.ofMembers_members
  rw [hread, Except.ok.injEq, asRead_eq_self_iff]

/-- A review whose issues have integers and texts in the right places comes back as it was. Any other
object is brought into that form by being read once: the review has what the object says, with an
integer for each count and a text for each name, and comes back as it was from then on. -/
theorem ofJson_settles :
    (∀ r : Review, (∀ i ∈ r.issues, i.IsTyped) → ofJson r.toJson = .ok r) ∧
      ∀ (value : Json) (r : Review), ofJson value = .ok r →
        ∃ members, value = .object members ∧ r.IsReadFrom members ∧ (∀ i ∈ r.issues, i.IsTyped) ∧
          ofJson r.toJson = .ok r := by
  refine ⟨fun r => ofJson_toJson_iff.2, fun value r h => ?_⟩
  cases value with
  | object members =>
    obtain rfl : ofMembers members = r := Except.ok.inj h
    have hread : (ofMembers members).IsReadFrom members := isReadFrom_ofMembers
    exact ⟨members, rfl, hread, hread.isTyped, ofJson_toJson_iff.2 hread.isTyped⟩
  | _ => cases h

/-- A review with numbers in other notations, a name that counts as absent, a path that is a list, and an
entry among the issues that is none. -/
theorem ofJson_settles_of_untidy :
    let issue : Json := .object [("line", .float (.finite (-3 / 2))), ("column", .array []),
      ("message", .bool true)]
    let value : Json := .object [("timestamp", .int 5), ("file_name", .int 0),
      ("file_path", .array [.null]), ("issue_count", .string " 7"), ("issues", .array [.null, issue]),
      ("metrics", .object [("complexity", .bool true)])]
    let r : Review := ⟨.int 5, "", "[None]", 7,
      [⟨.int (-1), .int 1, .string "True", "info", "unknown", "style"⟩], ⟨1, 0, 0⟩⟩
    ofJson value = .ok r ∧ ∃ members, value = .object members ∧ r.IsReadFrom members ∧
      (∀ i ∈ r.issues, i.IsTyped) ∧ ofJson r.toJson = .ok r := by
  intro issue value r
  have hread : ofJson value = .ok r := by
    dsimp only [issue, value, r]
    with_unfolding_all rfl
  exact ⟨hread, ofJson_settles.2 value r hread⟩

end Review

end CodeReview
