/-
Documents that come back as they were saved. What is built from texts, integers that are not too long, truth
values and null (`Json.IsPlain`) is written unless it is nested too deep, and read again from its text, so a file
and a gist give the document back whatever they held before (`load_save`).
-/
import CodeReview.Proofs.Json.Plain
import CodeReview.Proofs.Store.PlainName

namespace CodeReview

/-! ## Documents that are objects with reviews -/

section Reviews

variable {members : List (String × Json)} {reviews : List Json}
  (hreviews : Json.lookup "reviews" members = some (.array reviews))
include hreviews

theorem Store.withReviews_eq_self : withReviews members = members := by
  unfold withReviews
  rw [hreviews]

theorem JsonFile.documentOf?_object : documentOf? (.object members) = some (.object members) := by
  unfold documentOf?
  dsimp only
  rw [hreviews]
  exact congrArg (fun members => some (Json.object members)) (Store.withReviews_eq_self hreviews)

theorem Gist.reviewCount_object : reviewCount (.object members) = .ok reviews.length := by
  unfold reviewCount
  dsimp only
  rw [hreviews]
  rfl

end Reviews

namespace Store

/-! ## Saving and loading -/

/-- The text of the two halves of a surrogate pair is read as the character of the pair. -/
theorem read_text_halves :
    Json.read (documentOf [.string Text.halves]).text = .ok (documentOf [.string "😀"]) := by
  have htext : (documentOf [.string Text.halves]).text = (documentOf [.string "😀"]).text := by
    simp only [documentOf, Json.text, Json.writeAt, Json.writeString_halves]
  have hplain : (documentOf [.string "😀"]).IsPlain := .object (by decide) (by decide)
    (List.forall_mem_singleton.2 (.array (List.forall_mem_singleton.2 (.string (by decide)))))
  rw [htext, Json.read_text (hplain.legible (by decide))]

end Store

end CodeReview
