/-
Code points of texts. Each is that of a character or half of a surrogate pair (`codePoint_cases`). Where the two
halves of a pair never stand side by side (`Unsplit`), the units of a text say where its characters begin.
-/
import CodeReview.Text.CodePoint
import Mathlib.Data.List.Chain
import Mathlib.Tactic

namespace CodeReview.Text

variable {c : Char} {text : List Char}

/-! ## Characters and halves -/

/-- A code point is that of a character, or half of a surrogate pair. -/
theorem codePoint_cases (c : Char) : codePoint c = c.toNat ∧ isSurrogate c.toNat = false ∨
    isSurrogate (codePoint c) = true ∧ c.toNat = codePoint c + 0x50000 := by
  have hvalid : c.toNat < 0xD800 ∨ (0xDFFF < c.toNat ∧ c.toNat < 0x110000) := c.valid
  unfold codePoint
  split_ifs with hhalf
  · simp only [Bool.and_eq_true, decide_eq_true_eq] at hhalf
    refine .inr ⟨?_, by omega⟩
    simp only [isSurrogate, Bool.and_eq_true, decide_eq_true_eq]
    omega
  · refine .inl ⟨rfl, ?_⟩
    simp only [isSurrogate, Bool.and_eq_false_iff, decide_eq_false_iff_not]
    omega

@[simp] theorem ofCodePoint_codePoint (c : Char) : ofCodePoint (codePoint c) = c := by
  unfold ofCodePoint
  rcases codePoint_cases c with ⟨hchar, hsurrogate⟩ | ⟨hsurrogate, hchar⟩
  · rw [hchar, hsurrogate, if_neg Bool.false_ne_true, Char.ofNat_toNat]
  · rw [hsurrogate, if_pos rfl, ← hchar, Char.ofNat_toNat]

theorem codePoint_inj {d : Char} : codePoint c = codePoint d ↔ c = d :=
  ⟨fun h => by rw [← ofCodePoint_codePoint c, h, ofCodePoint_codePoint], fun h => by rw [h]⟩

/-- Below the halves code points are those of characters. -/
theorem codePoint_between_iff {low high : ℕ} (h : high < 0xD800) :
    low ≤ codePoint c ∧ codePoint c ≤ high ↔ low ≤ c.toNat ∧ c.toNat ≤ high := by
  rcases codePoint_cases c with ⟨hchar, -⟩ | ⟨hsurrogate, hchar⟩
  · rw [hchar]
  · simp only [isSurrogate, Bool.and_eq_true, decide_eq_true_eq] at hsurrogate
    omega

theorem codePoint_of_large (h : 0x10000 ≤ codePoint c) : codePoint c = c.toNat := by
  rcases codePoint_cases c with ⟨hchar, -⟩ | ⟨hsurrogate, -⟩
  · exact hchar
  · simp only [isSurrogate, Bool.and_eq_true, decide_eq_true_eq] at hsurrogate
    omega

def IsFirstHalf (c : Char) : Prop := 0xD800 ≤ codePoint c ∧ codePoint c < 0xDC00

def IsSecondHalf (c : Char) : Prop := 0xDC00 ≤ codePoint c ∧ codePoint c < 0xE000

instance (c : Char) : Decidable (IsFirstHalf c) := inferInstanceAs (Decidable (_ ∧ _))

instance (c : Char) : Decidable (IsSecondHalf c) := inferInstanceAs (Decidable (_ ∧ _))

theorem not_isFirstHalf_of_lt (h : c.toNat < 0x80) : ¬ IsFirstHalf c := by
  unfold IsFirstHalf
  rcases codePoint_cases c with ⟨hchar, -⟩ | ⟨-, hchar⟩ <;> omega

/-! ## Texts that split no pair -/

/-- The two halves of a surrogate pair never stand side by side as if they were characters. -/
def Unsplit (text : List Char) : Prop := text.IsChain fun c d => ¬ (IsFirstHalf c ∧ IsSecondHalf d)

instance (text : List Char) : Decidable (Unsplit text) :=
  inferInstanceAs (Decidable (text.IsChain fun c d => ¬ (IsFirstHalf c ∧ IsSecondHalf d)))

theorem unsplit_of_forall (h : ∀ c ∈ text, ¬ IsFirstHalf c) : Unsplit text := by
  refine List.Pairwise.isChain (List.pairwise_of_forall_mem_list fun c hc d _ => ?_)
  exact fun hhalves => h c hc hhalves.1

theorem Unsplit.suffix {back : List Char} (h : Unsplit text) (hback : back <:+ text) : Unsplit back :=
  List.IsChain.suffix h hback

/-- A character written in the place of another that is no half splits no pair. -/
theorem Unsplit.map_replace {old new : Char} (h : Unsplit text) (hold : ¬ IsFirstHalf new ∧ ¬ IsSecondHalf new) :
    Unsplit (text.map fun c => if c = old then new else c) := by
  refine (List.isChain_map _).2 (List.IsChain.imp (fun c d hapart => ?_) h)
  rintro ⟨hfirst, hsecond⟩
  split_ifs at hfirst hsecond
  · exact hold.1 hfirst
  · exact hold.1 hfirst
  · exact hold.2 hsecond
  · exact hapart ⟨hfirst, hsecond⟩

/-- The two halves of a surrogate pair, side by side. -/
def halves : String := String.ofList [ofCodePoint 0xD83D, ofCodePoint 0xDE00]

end CodeReview.Text
