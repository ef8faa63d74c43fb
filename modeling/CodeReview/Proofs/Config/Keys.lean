/-
Keys and what is under them. Two keys are the same if they are compared by the same thing (`sameKey_iff`),
so an entry that is put into a map is found under its own key and changes nothing under any other
(`lookup_insert_of_key`), and no key comes twice (`HasDistinctKeys.insert`). In a configuration with another
laid over it the last of several settings counts (`lookup_overlay`).
-/
import CodeReview.Config.Basic
import Mathlib.Tactic

namespace CodeReview

namespace Value

/-! ## What keys are compared by -/

/-- What a number stands for. -/
inductive Magnitude where
  | number (number : ℚ)
  | infinity (negative : Bool)

/-- What a key is compared by. -/
inductive Rank where
  | null
  | text (text : String)
  | bytes (bytes : Text.Bytes)
  | date (date : Date)
  | moment (zoned : Bool) (instant : ℤ)
  | amount (magnitude : Magnitude)

/-- What a floating-point number stands for; `nan` stands for nothing and is not even the same as itself. -/
def Magnitude.ofDouble? (x : Double) : Option Magnitude :=
  match x with
  | .infinity negative => some (.infinity negative)
  | x => x.toRat?.map .number

def Magnitude.of? : Amount → Option Magnitude
  | .int i => some (.number i)
  | .float x => ofDouble? x

/-- What a value is compared by, if it can be the same key as another at all. -/
def rank? : Value → Option Rank
  | .null => some .null
  | .string s => some (.text s)
  | .bytes b => some (.bytes b)
  | .date d => some (.date d)
  | .moment m => some (.moment m.offset.isSome m.instant)
  | x => (x.amount?.bind Magnitude.of?).map .amount

theorem double_same_iff {x y : Double} : x.same y = true ↔
    ∃ m, Magnitude.ofDouble? x = some m ∧ Magnitude.ofDouble? y = some m := by
  cases x <;> cases y <;> simp [Double.same, Magnitude.ofDouble?, Double.toRat?]
  all_goals exact eq_comm

theorem amount_same_iff {x y : Amount} : x.same y = true ↔
    ∃ m, Magnitude.of? x = some m ∧ Magnitude.of? y = some m := by
  cases x with
  | int i =>
    cases y with
    | int j =>
      simp only [Amount.same, Magnitude.of?, beq_iff_eq, Option.some.injEq, exists_eq_left',
        Magnitude.number.injEq, Int.cast_inj]
      exact eq_comm
    | float y => exact double_same_iff
  | float x =>
    cases y with
    | int j => exact double_same_iff
    | float y => exact double_same_iff

/-- Two values are the same key exactly if they are compared by the same thing. -/
theorem sameKey_iff {x y : Value} : x.sameKey y = true ↔ ∃ r, x.rank? = some r ∧ y.rank? = some r := by
  cases x <;> cases y <;> simp [sameKey, rank?, amount?, amount_same_iff]
  all_goals grind

theorem sameKey_comm (x y : Value) : x.sameKey y = y.sameKey x := by
  rw [Bool.eq_iff_iff, sameKey_iff, sameKey_iff]
  exact exists_congr fun r => and_comm

/-- Keys that are the same are the same as the same keys. -/
theorem sameKey_congr {x y : Value} (h : x.sameKey y = true) (z : Value) : x.sameKey z = y.sameKey z := by
  obtain ⟨r, hx, hy⟩ := sameKey_iff.1 h
  rw [Bool.eq_iff_iff, sameKey_iff, sameKey_iff, hx, hy]

/-! ## Entries -/

/-- An entry that is put in is found under its own key, and under any other what was found before. -/
theorem lookup_insert_of_key (key key' value : Value) (entries : List (Value × Value)) :
    lookup key' (insert key value entries) =
      if key.sameKey key' then some value else lookup key' entries := by
  induction entries with
  | nil => rfl
  | cons entry rest ih =>
    obtain ⟨k, v⟩ := entry
    unfold insert
    by_cases hkey : k.sameKey key = true
    · rw [if_pos hkey, lookup, lookup, sameKey_congr hkey]
      split <;> rfl
    · rw [if_neg hkey, lookup, ih, lookup]
      split
      · next hsame =>
        rw [if_neg]
        rw [sameKey_congr hsame, sameKey_comm] at hkey
        exact hkey
      · rfl

theorem lookup_eq_none {key : Value} {entries : List (Value × Value)}
    (h : ∀ entry ∈ entries, entry.1.sameKey key = false) : lookup key entries = none := by
  induction entries with
  | nil => rfl
  | cons entry rest ih =>
    obtain ⟨hentry, hrest⟩ := List.forall_mem_cons.1 h
    exact (if_neg (by rw [hentry]; exact Bool.false_ne_true)).trans (ih hrest)

/-- No two entries are under the same key. -/
def HasDistinctKeys (entries : List (Value × Value)) : Prop :=
  entries.Pairwise fun entry entry' => entry.1.sameKey entry'.1 = false

theorem key_of_mem_insert {key value : Value} {entries : List (Value × Value)} {entry : Value × Value}
    (h : entry ∈ insert key value entries) : entry.1 = key ∨ ∃ old ∈ entries, old.1 = entry.1 := by
  induction entries with
  | nil =>
    rw [insert, List.mem_singleton] at h
    exact .inl (congrArg Prod.fst h)
  | cons first rest ih =>
    obtain ⟨k, v⟩ := first
    unfold insert at h
    split at h
    · rcases List.mem_cons.1 h with rfl | h
      · exact .inr ⟨(k, v), List.mem_cons_self, rfl⟩
      · exact .inr ⟨entry, List.mem_cons_of_mem _ h, rfl⟩
    · rcases List.mem_cons.1 h with rfl | h
      · exact .inr ⟨(k, v), List.mem_cons_self, rfl⟩
      · exact (ih h).imp_right fun ⟨old, hold, heq⟩ => ⟨old, List.mem_cons_of_mem _ hold, heq⟩

theorem HasDistinctKeys.insert {entries : List (Value × Value)} (h : HasDistinctKeys entries)
    (key value : Value) : HasDistinctKeys (insert key value entries) := by
  induction entries with
  | nil => exact List.pairwise_singleton _ _
  | cons first rest ih =>
    obtain ⟨k, v⟩ := first
    obtain ⟨hfirst, hrest⟩ := List.pairwise_cons.1 h
    unfold Value.insert
    split
    · exact List.pairwise_cons.2 ⟨hfirst, hrest⟩
    · next hne =>
      refine List.pairwise_cons.2 ⟨fun entry hentry => ?_, ih hrest⟩
      rcases key_of_mem_insert hentry with heq | ⟨old, hold, heq⟩
      · rw [heq]
        exact Bool.eq_false_iff.2 hne
      · rw [← heq]
        exact hfirst old hold

end Value

namespace Config

/-- The value of the last entry under a key. -/
def last? (key : Value) : List (Value × Value) → Option Value
  | [] => none
  | (k, value) :: rest => (last? key rest).or (if k.sameKey key then some value else none)

/-- In a configuration with settings laid over it the last of them counts. -/
theorem lookup_overlay (c : Config) (entries : List (Value × Value)) (key : Value) :
    Value.lookup key (c.overlay entries).entries = (last? key entries).or (Value.lookup key c.entries) := by
  induction entries generalizing c with
  | nil => rfl
  | cons entry rest ih =>
    obtain ⟨k, value⟩ := entry
    have hfirst : c.overlay ((k, value) :: rest) =
        (⟨Value.insert k value c.entries⟩ : Config).overlay rest := rfl
    rw [hfirst, ih, last?, Value.lookup_insert_of_key, Option.or_assoc]
    congr 1
    split <;> rfl

end Config

end CodeReview
