/-
The retention window of a history, and what its operations do to a store that keeps what it is given.
The entries that a history writes are those it was given and that are in the window (`prune_yields`),
and it reads the entries that it wrote (`load_yields`, `save_yields`).
-/
import CodeReview.History.Basic
import CodeReview.Proofs.History.Reading
import CodeReview.Proofs.Store.Keeping

namespace CodeReview

/-! ## The cutoff -/

/-- The calendar has a moment a number of days before this one, which has a text that shows it. -/
structure Moment.IsReading (days : Int) (m : Moment) : Prop where
  legible : m.Legible
  cutoff : ∃ span limit, microsOfDays (.int days) = .ok span ∧ m.earlier span = .ok limit

theorem microsOfDays_int {days span : Int} (h : microsOfDays (.int days) = .ok span) :
    span = days * Moment.microsPerDay := by
  unfold microsOfDays checkSpan at h
  dsimp only at h
  split at h
  · cases h
  · cases h; rfl

namespace History

variable {σ : Type} {store : Store σ} {kept : σ → Json → Prop} {s : σ} {h : History σ}

theorem cutoff_of_earlier {days span : Int} {now limit : Moment} (hspan : microsOfDays (.int days) = .ok span)
    (hlimit : now.earlier span = .ok limit) (store : Store σ) :
    (History.mk store (.int days) now).cutoff = .ok limit := by
  show (do now.earlier (← microsOfDays (.int days))) = _
  rw [hspan]
  exact hlimit

/-- The cutoff is as many days before the moment as reviews are kept. -/
theorem cutoff_spec {days : Int} {now : Moment} (hnow : now.IsReading days) (store : Store σ) :
    ∃ limit, (History.mk store (.int days) now).cutoff = .ok limit ∧
      limit.instant = now.instant - days * Moment.microsPerDay := by
  obtain ⟨span, limit, hspan, hlimit⟩ := hnow.cutoff
  refine ⟨limit, cutoff_of_earlier hspan hlimit store, ?_⟩
  rw [Moment.instant_earlier hlimit, microsOfDays_int hspan]

theorem prune_yields {limit : Moment} (hcutoff : h.cutoff = .ok limit) (entries : List Kept) :
    (h.prune entries).Yields s (entries.filter (isAfter limit)) (s = ·) := by
  unfold prune
  rw [hcutoff]
  refine .bind (.ofExcept rfl) fun s' hs' => ?_
  refine .bind (.noteAll hs') fun s'' hs'' => ?_
  exact .pure hs''

/-! ## The store -/

theorem objects_map_object (entries : List Kept) : objects (entries.map .object) = entries := by
  induction entries with
  | nil => rfl
  | cons entry entries ih =>
    unfold objects at ih ⊢
    rw [List.map_cons, List.filterMap_cons, ih]

theorem entriesOf_documentOf (entries : List Kept) :
    entriesOf (Store.documentOf (entries.map .object)) = .ok entries := by
  show Except.ok (objects (entries.map .object)) = _
  rw [objects_map_object]

variable (hstore : h.store.Keeps kept)

include hstore

theorem load_yields {document : Json} {entries : List Kept} (hkept : kept s document)
    (hentries : entriesOf document = .ok entries) : h.load.Yields s entries (kept · document) := by
  unfold load
  refine .bind (hstore.load hkept).attempt fun s' hs' => ?_
  dsimp only
  rw [hentries]
  exact .ofExcept hs'

theorem save_yields {document : Json} (hkept : kept s document) (entries : List Kept) :
    (h.save entries).Yields s () (kept · (Store.documentOf (entries.map .object))) := by
  unfold save
  refine .bind (hstore.save hkept _).attempt fun s' hs' => ?_
  exact .pure hs'

theorem clear_yields {document : Json} (hkept : kept s document) :
    h.clear.Yields s true (kept · Store.emptyDocument) := by
  unfold clear
  refine .bind (hstore.clear hkept).attempt fun s' hs' => ?_
  exact .pure hs'

end History

end CodeReview
