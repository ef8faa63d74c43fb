/-
Plain values: built from texts, integers that are not too long, truth values and null. How deep one is nested
(`Json.depth`) alone decides whether it is written (`IsPlain.write_eq`), and a text that was written is read.
-/
import CodeReview.Proofs.Json.RoundTrip

namespace CodeReview.Json

/-- Built from null, truth values, integers that are not too long and texts that split no surrogate pair, by
arrays and by objects that name each member once, however deep they are nested. -/
inductive IsPlain : Json → Prop
  | null : IsPlain .null
  | bool (b : Bool) : IsPlain (.bool b)
  | int {i : ℤ} (hshort : IsShort i) : IsPlain (.int i)
  | string {s : String} (hunsplit : Text.Unsplit s.toList) : IsPlain (.string s)
  | array {items : List Json} (hitems : ∀ item ∈ items, IsPlain item) : IsPlain (.array items)
  | object {members : List (String × Json)} (hnames : (members.map Prod.fst).Nodup)
      (hunsplit : ∀ member ∈ members, Text.Unsplit member.1.toList)
      (hmembers : ∀ member ∈ members, IsPlain member.2) : IsPlain (.object members)

mutual

/-- How many arrays and objects are nested in each other. -/
def depth : Json → ℕ
  | .array items => depthOfItems items + 1
  | .object members => depthOfMembers members + 1
  | _ => 0

def depthOfItems : List Json → ℕ
  | [] => 0
  | item :: items => max item.depth (depthOfItems items)

def depthOfMembers : List (String × Json) → ℕ
  | [] => 0
  | (_, value) :: members => max value.depth (depthOfMembers members)

end

theorem depth_le_depthOfItems {item : Json} {items : List Json} (h : item ∈ items) :
    item.depth ≤ depthOfItems items := by
  induction items with
  | nil => cases h
  | cons first items ih =>
    rw [depthOfItems]
    rcases List.mem_cons.1 h with rfl | h
    · exact le_max_left _ _
    · exact le_max_of_le_right (ih h)

theorem depth_le_depthOfMembers {member : String × Json} {members : List (String × Json)}
    (h : member ∈ members) : member.2.depth ≤ depthOfMembers members := by
  induction members with
  | nil => cases h
  | cons first members ih =>
    rw [depthOfMembers]
    rcases List.mem_cons.1 h with rfl | h
    · exact le_max_left _ _
    · exact le_max_of_le_right (ih h)

/-! ## What can be read again -/

theorem IsPlain.legible {value : Json} (h : value.IsPlain) {limit : ℕ} (hlimit : value.depth ≤ limit) :
    Legible limit value := by
  induction h generalizing limit with
  | null => exact .null
  | bool b => exact .bool b
  | int hshort => exact .int hshort
  | string hunsplit => exact .string hunsplit
  | array _ ih =>
    rw [depth] at hlimit
    obtain ⟨limit, rfl⟩ := Nat.exists_eq_add_of_le' (Nat.le_of_add_left_le hlimit)
    have hitems := Nat.le_of_add_le_add_right hlimit
    exact .array fun item hitem => ih item hitem ((depth_le_depthOfItems hitem).trans hitems)
  | object hnames hunsplit _ ih =>
    rw [depth] at hlimit
    obtain ⟨limit, rfl⟩ := Nat.exists_eq_add_of_le' (Nat.le_of_add_left_le hlimit)
    have hmembers := Nat.le_of_add_le_add_right hlimit
    exact .object hnames hunsplit fun member hmember =>
      ih member hmember ((depth_le_depthOfMembers hmember).trans hmembers)

/-! ## What can be written -/

section Obstacles

variable {limit : ℕ}

/-- What keeps a value from being written, if it can only be how deep it is nested. -/
def tooDeep? (limit depth : ℕ) : Option WriteError := if depth ≤ limit then none else some .nestedTooDeep

theorem tooDeep?_max (limit depth depth' : ℕ) :
    tooDeep? limit (max depth depth') = (tooDeep? limit depth).or (tooDeep? limit depth') := by
  unfold tooDeep?
  by_cases hfirst : depth ≤ limit <;> by_cases hsecond : depth' ≤ limit <;> simp [hfirst, hsecond]

theorem tooDeep?_succ (limit depth : ℕ) : tooDeep? (limit + 1) (depth + 1) = tooDeep? limit depth :=
  if_congr (Nat.add_le_add_iff_right) rfl rfl

theorem obstacleInItems?_eq {items : List Json}
    (h : ∀ item ∈ items, obstacle? limit item = tooDeep? limit item.depth) :
    obstacleInItems? limit items = tooDeep? limit (depthOfItems items) := by
  induction items with
  | nil => rfl
  | cons item items ih =>
    obtain ⟨hitem, hitems⟩ := List.forall_mem_cons.1 h
    rw [obstacleInItems?, depthOfItems, tooDeep?_max, hitem, ih hitems]

theorem obstacleInMembers?_eq {members : List (String × Json)}
    (h : ∀ member ∈ members, obstacle? limit member.2 = tooDeep? limit member.2.depth) :
    obstacleInMembers? limit members = tooDeep? limit (depthOfMembers members) := by
  induction members with
  | nil => rfl
  | cons member members ih =>
    obtain ⟨hmember, hmembers⟩ := List.forall_mem_cons.1 h
    rw [obstacleInMembers?, depthOfMembers, tooDeep?_max, hmember, ih hmembers]

/-- Nothing but its depth keeps a plain value from being written. -/
theorem IsPlain.obstacle?_eq {value : Json} (h : value.IsPlain) :
    obstacle? limit value = tooDeep? limit value.depth := by
  induction h generalizing limit with
  | int hshort => exact hshort.obstacle?_eq_none _
  | array _ ih =>
    cases limit with
    | zero => rfl
    | succ limit =>
      rw [obstacle?, depth, tooDeep?_succ]
      exact obstacleInItems?_eq fun item hitem => ih item hitem
  | object _ _ _ ih =>
    cases limit with
    | zero => rfl
    | succ limit =>
      rw [obstacle?, depth, tooDeep?_succ]
      exact obstacleInMembers?_eq fun member hmember => ih member hmember
  | _ => rfl

end Obstacles

/-- A plain value is written unless it is nested too deep. -/
theorem IsPlain.write_eq {value : Json} (h : value.IsPlain) :
    write value = if value.depth ≤ maxDepth then .ok value.text else .error .nestedTooDeep := by
  unfold write
  rw [h.obstacle?_eq, tooDeep?]
  split_ifs <;> rfl

/-! ## Nested arrays -/

/-- A value with so many arrays around it. -/
def nested (value : Json) (levels : ℕ) : Json := (fun inner => .array [inner])^[levels] value

theorem nested_succ (value : Json) (levels : ℕ) : nested value (levels + 1) = .array [nested value levels] :=
  Function.iterate_succ_apply' ..

theorem depth_nested (value : Json) (levels : ℕ) : (nested value levels).depth = levels + value.depth := by
  induction levels with
  | zero => exact (Nat.zero_add _).symm
  | succ levels ih =>
    rw [nested_succ, depth, depthOfItems, depthOfItems, ih, Nat.max_zero]
    omega

theorem IsPlain.nested {value : Json} (h : value.IsPlain) (levels : ℕ) : (nested value levels).IsPlain := by
  induction levels with
  | zero => exact h
  | succ levels ih =>
    rw [nested_succ]
    exact .array (List.forall_mem_singleton.2 ih)

end CodeReview.Json
