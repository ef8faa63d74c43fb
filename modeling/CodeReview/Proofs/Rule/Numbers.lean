/-
What the pattern of numbers finds. It leads over a longest run of word characters that is a number
(`mem_ends_plainNumber_at`), and where there is one it is found (`exists_mem_all_of_isRun`). So the first
number that is not allowed is the first such run in the line (`isFirst_of_firstNumber?`).
-/
import CodeReview.Proofs.Pattern.Counting
import CodeReview.Proofs.Text.Runs
import CodeReview.Proofs.Text.Words
import CodeReview.Rule.Detector
import Mathlib.Data.Bool.AllAny

namespace CodeReview.Detector

open Pattern
open Text (IsRun isWordChar)

variable {length : ℕ} {c after : Cursor} {line before number rest : List Char} {allowed : List (List Char)}
  {found : Found}

/-! ## Numbers -/

/-- The number that digits spell out, whatever their scripts are. -/
def valueOf (digits : List Char) : ℕ :=
  digits.foldl (fun n c => 10 * n + (Text.digitValue? c).getD 0) 0

/-- A number above one. Its digits may be of any script, but the first is an ASCII digit and not zero. -/
structure IsNumber (number : List Char) : Prop where
  first : ∃ c ∈ number.head?, c ∈ "123456789".toList
  digits : ∀ c ∈ number, Text.isDigit c = true
  two_le : 2 ≤ valueOf number

theorem le_foldl_digits (digits : List Char) (n : ℕ) :
    n ≤ digits.foldl (fun n c => 10 * n + (Text.digitValue? c).getD 0) n := by
  induction digits generalizing n with
  | nil => exact Nat.le_refl n
  | cons x digits ih => exact le_trans (by dsimp only; omega) (ih _)

/-- A number with a digit that is not zero in front is at least ten, or that digit. -/
theorem two_le_valueOf_iff {x : Char} {digits : List Char} {d : ℕ} (hx : Text.digitValue? x = some d)
    (hd : 0 < d) : 2 ≤ valueOf (x :: digits) ↔ 2 ≤ d ∨ digits ≠ [] := by
  unfold valueOf
  rw [List.foldl_cons, hx]
  cases digits with
  | nil => simp
  | cons y digits =>
    refine iff_of_true ?_ (.inr (List.cons_ne_nil _ _))
    exact le_trans (by simp; omega) (le_foldl_digits digits _)

theorem mem_ascii_iff {x : Char} : x ∈ "123456789".toList ↔ 49 ≤ x.toNat ∧ x.toNat ≤ 57 := by
  constructor
  · have hall : ∀ x ∈ "123456789".toList, 49 ≤ x.toNat ∧ x.toNat ≤ 57 := List.all_iff_forall_prop.1 (by decide)
    exact hall x
  · rintro ⟨hlow, hhigh⟩
    have hall : ∀ n ∈ List.range 9, Char.ofNat (49 + n) ∈ "123456789".toList := by decide
    have hx := hall (x.toNat - 49) (List.mem_range.2 (by omega))
    rwa [Nat.add_sub_cancel' hlow, Char.ofNat_toNat] at hx

theorem holds_range {low high : ℕ} {x : Char} (h : high < 0xD800) :
    (CharTest.set false .exact [.range low high]).holds x = true ↔ low ≤ x.toNat ∧ x.toNat ≤ high := by
  rw [← Text.codePoint_between_iff h]
  simp [CharTest.holds, SetItem.holds]

theorem holds_digit {x : Char} : CharTest.digit.holds x = Text.isDigit x := by
  simp [CharTest.digit, CharTest.holds, SetItem.holds, ClassName.holds]

theorem IsNumber.isWordChar (h : IsNumber number) : ∀ c ∈ number, Text.isWordChar c = true :=
  fun c hc => Text.isWordChar_of_isDigit (h.digits c hc)

theorem IsNumber.ne_nil (h : IsNumber number) : number ≠ [] := by
  rintro rfl
  obtain ⟨c, hc, -⟩ := h.first
  cases hc

/-- The digits of a number: one that is more than one, or several. -/
theorem isNumber_cons_iff {x : Char} {digits : List Char} : IsNumber (x :: digits) ↔
    (49 ≤ x.toNat ∧ x.toNat ≤ 57) ∧ (∀ c ∈ digits, Text.isDigit c = true) ∧ (50 ≤ x.toNat ∨ digits ≠ []) := by
  have hvalue (hx : 49 ≤ x.toNat ∧ x.toNat ≤ 57) : Text.digitValue? x = some (x.toNat - 48) :=
    Text.digitValue?_of_ascii ⟨by omega, hx.2⟩
  have htwo (hx : 49 ≤ x.toNat ∧ x.toNat ≤ 57) :
      2 ≤ valueOf (x :: digits) ↔ 50 ≤ x.toNat ∨ digits ≠ [] := by
    rw [two_le_valueOf_iff (hvalue hx) (by omega)]
    exact or_congr_left (by omega)
  constructor
  · rintro ⟨⟨_, ⟨⟩, hx⟩, hdigits, hvalue⟩
    have hx := mem_ascii_iff.1 hx
    exact ⟨hx, (List.forall_mem_cons.1 hdigits).2, (htwo hx).1 hvalue⟩
  · rintro ⟨hx, hdigits, hmore⟩
    refine ⟨⟨x, rfl, mem_ascii_iff.2 hx⟩, List.forall_mem_cons.2 ⟨?_, hdigits⟩, (htwo hx).2 hmore⟩
    unfold Text.isDigit
    rw [hvalue hx]
    rfl

/-! ## Where the pattern leads -/

/-- A digit that is more than one, or some digits after the first: either way a number. -/
theorem mem_ends_digits : after ∈ (oneOf [.char (.set false .exact [.range 50 57]),
      .seq (.char (.set false .exact [.range 49 57])) (oneOrMore .digit)]).ends length c ↔
    ∃ number rest, c.rest = number ++ rest ∧ IsNumber number ∧ after = c.past number rest := by
  have hascii : 57 < 0xD800 := by decide
  simp only [oneOf, mem_ends_alt, mem_ends_seq, mem_ends_char, mem_ends_oneOrMore, holds_range hascii, holds_digit]
  constructor
  · rintro (⟨x, rest, hrest, hx, rfl⟩ | ⟨_, ⟨x, rest, hrest, hx, rfl⟩, digits, left, hleft, hdigits, hsome, rfl⟩)
    · exact ⟨[x], rest, hrest, isNumber_cons_iff.2 ⟨⟨by omega, hx.2⟩, List.forall_mem_nil _, .inl hx.1⟩, rfl⟩
    · obtain rfl : rest = digits ++ left := hleft
      exact ⟨x :: digits, left, hrest, isNumber_cons_iff.2 ⟨hx, hdigits, .inr hsome⟩, Cursor.past_past _⟩
  · rintro ⟨number, rest, hrest, hnumber, rfl⟩
    obtain ⟨x, digits, rfl⟩ := List.exists_cons_of_ne_nil hnumber.ne_nil
    obtain ⟨hx, hdigits, hmore⟩ := isNumber_cons_iff.1 hnumber
    cases digits with
    | nil => exact .inl ⟨x, rest, hrest, ⟨hmore.resolve_right (not_not_intro rfl), hx.2⟩, rfl⟩
    | cons y digits =>
      exact .inr ⟨_, ⟨x, y :: digits ++ rest, hrest, hx, rfl⟩, y :: digits, rest, rfl, hdigits,
        List.cons_ne_nil _ _, (Cursor.past_past [x]).symm⟩

/-- The pattern of numbers leads over a number that no word character stands beside. -/
theorem mem_ends_plainNumber : after ∈ plainNumber.ends length c ↔
    ∃ number rest, c.rest = number ++ rest ∧ IsNumber number ∧
      (∀ y ∈ c.before.head?, isWordChar y = false) ∧ (∀ y ∈ rest.head?, isWordChar y = false) ∧
      after = c.past number rest := by
  have hleft {number rest : List Char} (hrest : c.rest = number ++ rest) (h : IsNumber number) :
      Anchor.holds c (.wordBoundary false) = true ↔ ∀ y ∈ c.before.head?, isWordChar y = false := by
    obtain ⟨x, digits, rfl⟩ := List.exists_cons_of_ne_nil h.ne_nil
    exact atWordEdge_iff hrest (h.isWordChar x List.mem_cons_self)
  unfold plainNumber
  simp only [Pattern.sequence, mem_ends_seq, wordEdge, mem_ends_anchor, mem_ends_digits]
  constructor
  · rintro ⟨_, ⟨hedge, rfl⟩, _, ⟨number, rest, hrest, hnumber, rfl⟩, hedge', rfl⟩
    exact ⟨number, rest, hrest, hnumber, (hleft hrest hnumber).1 hedge,
      (atWordEdge_past_iff hnumber.ne_nil hnumber.isWordChar).1 hedge', rfl⟩
  · rintro ⟨number, rest, hrest, hnumber, hedge, hedge', rfl⟩
    exact ⟨c, ⟨(hleft hrest hnumber).2 hedge, rfl⟩, _, ⟨number, rest, hrest, hnumber, rfl⟩,
      (atWordEdge_past_iff hnumber.ne_nil hnumber.isWordChar).2 hedge', rfl⟩

/-- In a line it leads over a longest run of word characters that is a number. -/
theorem mem_ends_plainNumber_at {left : List Char} :
    after ∈ plainNumber.ends length (.at [] 0 before left) ↔ ∃ number rest, left = number ++ rest ∧
      IsNumber number ∧ IsRun isWordChar before number rest ∧
      after = (Cursor.at [] 0 before left).past number rest := by
  rw [mem_ends_plainNumber, head?_before_at]
  constructor
  · rintro ⟨number, rest, hrest, hnumber, hedge, hedge', rfl⟩
    exact ⟨number, rest, hrest, hnumber, ⟨hnumber.ne_nil, hnumber.isWordChar, hedge, hedge'⟩, rfl⟩
  · rintro ⟨number, rest, hrest, hnumber, hrun, rfl⟩
    exact ⟨number, rest, hrest, hnumber, hrun.left, hrun.right, rfl⟩

/-- A match stands where a number does. -/
theorem isRun_of_mem_all (h : found ∈ plainNumber.all line) :
    IsNumber found.text ∧ IsRun isWordChar found.start.before.reverse found.text found.stop.rest := by
  have hsplits := splits_of_mem_all h
  have hstop := List.mem_of_head? hsplits.stop
  rw [hsplits.start] at hstop
  obtain ⟨number, rest, hsplit, hnumber, hrun, hafter⟩ := mem_ends_plainNumber_at.1 hstop
  have hrest : found.stop.rest = rest := by
    rw [hafter]
    rfl
  rw [hrest] at hsplit ⊢
  obtain rfl := List.append_cancel_right hsplit
  exact ⟨hnumber, hrun⟩

/-- Wherever a number is a longest run there is a match. -/
theorem exists_mem_all_of_isRun (hnumber : IsNumber number) (hrun : IsRun isWordChar before number rest) :
    ∃ found ∈ plainNumber.all (before ++ number ++ rest), found.text = number ∧
      found.start.position = before.length := by
  have hends : (Cursor.at [] 0 before (number ++ rest)).past number rest ∈
      plainNumber.ends (before ++ number ++ rest).length (.at [] 0 before (number ++ rest)) :=
    mem_ends_plainNumber_at.2 ⟨number, rest, rfl, hnumber, hrun, rfl⟩
  obtain ⟨stop, hstop⟩ := Option.isSome_iff_exists.1 (List.isSome_head?.2 (List.ne_nil_of_mem hends))
  have hmoves : stop.position ≠ before.length := by
    obtain ⟨number', rest', -, hnumber', -, hafter⟩ := mem_ends_plainNumber_at.1 (List.mem_of_head? hstop)
    have hpos := List.length_pos_of_ne_nil hnumber'.ne_nil
    rw [hafter, Cursor.past_position]
    unfold Cursor.at
    simp only
    omega
  obtain ⟨found, hfound, hstart, hend⟩ := exists_mem_all (List.append_assoc ..) hstop hmoves
  have hsplits := splits_of_mem_all hfound
  obtain ⟨hposition, hposition'⟩ := hsplits.positions
  -- the match and the number are runs in one line, and neither ends before the other begins
  rcases (isRun_of_mem_all hfound).2.eq_or_apart hrun hsplits.eq.symm with ⟨hbefore, rfl, -⟩ |
    ⟨gap, -, rfl, -⟩ | ⟨gap, hgap, hbefore, -⟩
  · refine ⟨found, hfound, rfl, ?_⟩
    rw [hposition, hbefore, List.length_reverse]
  · simp only [List.length_append, List.length_reverse] at hend
    omega
  · have hlonger := congrArg List.length hbefore
    have hpos := List.length_pos_of_ne_nil hgap
    simp only [List.length_append, List.length_reverse] at hlonger
    omega

/-! ## The first number -/

/-- A longest run of word characters is a number in some sense of the word, and it is not allowed. -/
structure NeedsName (IsInteger : List Char → Prop) (allowed : List (List Char))
    (before number rest : List Char) : Prop where
  run : IsRun isWordChar before number rest
  integer : IsInteger number
  notMem : number ∉ allowed

/-- The parts of a line before and behind the first number in it that needs a name. -/
structure IsFirst (IsInteger : List Char → Prop) (allowed : List (List Char))
    (line before number rest : List Char) : Prop where
  eq : line = before ++ number ++ rest
  needsName : NeedsName IsInteger allowed before number rest
  first : ∀ before' number' rest', line = before' ++ number' ++ rest' →
    NeedsName IsInteger allowed before' number' rest' → before.length ≤ before'.length

/-- The first number that is found is the first that needs a name. -/
theorem isFirst_of_firstNumber? (h : firstNumber? allowed line = some found) :
    IsFirst IsNumber allowed line found.start.before.reverse found.text found.stop.rest ∧
      found.start.position = found.start.before.reverse.length := by
  obtain ⟨hnot, earlier, later, hall, hearlier⟩ := List.find?_eq_some_iff_append.1 h
  have hfound : found ∈ plainNumber.all line := List.mem_of_find?_eq_some h
  have hsplits := splits_of_mem_all hfound
  obtain ⟨hnumber, hrun⟩ := isRun_of_mem_all hfound
  have hnotMem : found.text ∉ allowed := by simpa using hnot
  refine ⟨⟨hsplits.eq, ⟨hrun, hnumber, hnotMem⟩, ?_⟩, by rw [List.length_reverse, hsplits.positions.1]⟩
  rintro before' number' rest' rfl ⟨hrun', hnumber', hnotMem'⟩
  obtain ⟨found', hfound', rfl, hposition⟩ := exists_mem_all_of_isRun hnumber' hrun'
  rw [List.length_reverse, ← hsplits.positions.1, ← hposition]
  rw [hall] at hfound'
  rcases List.mem_append.1 hfound' with hmem | hmem
  · have hskipped := hearlier found' hmem
    exact absurd hnotMem' (by simpa using hskipped)
  · rcases List.mem_cons.1 hmem with rfl | hmem
    · exact Nat.le_refl _
    · have hpairwise := pairwise_all plainNumber (before' ++ found'.text ++ rest')
      rw [hall] at hpairwise
      have hbehind := List.rel_of_pairwise_cons (List.pairwise_append.1 hpairwise).2.1 hmem
      have hpositions := hsplits.positions
      omega

end CodeReview.Detector
