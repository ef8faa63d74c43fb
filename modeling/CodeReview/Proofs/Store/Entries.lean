/-
Stores that keep the entries of a history. In memory a document is kept as it is; a gist holds its text,
from which it is read again if all its entries are legible (`Gist.keepsEntries`).
-/
import CodeReview.History.Basic
import CodeReview.Proofs.Json.RoundTrip
import CodeReview.Proofs.Store.Keeping
import CodeReview.Store.Gist

namespace CodeReview

open History (Kept)

namespace Store

/-- The document of a history with some entries. -/
def documentWith (entries : List Kept) : Json := documentOf (entries.map .object)

/-- Each entry can be read again from the text of a document that it is in. -/
def AreLegible (entries : List Kept) : Prop :=
  ∀ entry ∈ entries, Json.Legible (Json.maxDepth - 2) (.object entry)

theorem legible_documentWith {entries : List Kept} (h : AreLegible entries) :
    Json.Legible Json.maxDepth (documentWith entries) := by
  have hentries : Json.Legible (Json.maxDepth - 2 + 1) (.array (entries.map .object)) := by
    refine .array fun item hitem => ?_
    obtain ⟨entry, hentry, rfl⟩ := List.mem_map.1 hitem
    exact h entry hentry
  have hname : Text.Unsplit "reviews".toList := by decide
  exact .object (List.nodup_singleton _) (List.forall_mem_singleton.2 hname)
    (List.forall_mem_singleton.2 hentries)

/-- A store that never fails and keeps the entries it was given last, if they are legible; `holds` says
which entries a state has. -/
structure KeepsEntries {σ : Type} (store : Store σ) (holds : σ → List Kept → Prop) : Prop where
  load {s : σ} {entries : List Kept} (h : holds s entries) (hlegible : AreLegible entries) :
    store.load.Yields s (documentWith entries) (holds · entries)
  save {s : σ} {entries : List Kept} (h : holds s entries) {next : List Kept}
    (hlegible : AreLegible next) : (store.save (documentWith next)).Yields s () (holds · next)
  clear {s : σ} {entries : List Kept} (h : holds s entries) : store.clear.Yields s () (holds · [])

end Store

/-- A document in memory that is not made to fail. -/
def Memory.Holds (memory : Memory) (entries : List Kept) : Prop :=
  memory = ⟨Store.documentWith entries, false, false⟩

theorem Memory.keepsEntries : Memory.store.KeepsEntries Memory.Holds where
  load h _ := Memory.keeps.load h
  save h _ _ := Memory.keeps.save h _
  clear h := Memory.keeps.clear h

namespace Gist

variable {service : GistService} {document : Json} {entries : List Kept}

/-- The gist can be fetched, and holds the text of a history with some entries; without its file it has
none. -/
def Holds (service : GistService) (entries : List Kept) : Prop :=
  service.reachable = true ∧
    (service.content = none ∧ entries = [] ∨
      service.content = some (String.ofList (Store.documentWith entries).text))

theorem fetch_yields (gist : Value) (hreachable : service.reachable = true) :
    (fetch gist).Yields service () fun s => s.reachable = true ∧ s.content = service.content := by
  unfold fetch
  refine .bind (P := fun s => s.reachable = true ∧ s.content = service.content) ⟨rfl, hreachable, rfl⟩
    fun s hs => ?_
  refine .bind (P := fun s => s.reachable = true ∧ s.content = service.content) ⟨rfl, hs⟩
    fun s' hs' => ?_
  rw [if_pos hs.1]
  exact .pure hs'

/-- The gist can be fetched, and holds a text. -/
def HasText (service : GistService) (text : List Char) : Prop :=
  service.reachable = true ∧ service.content = some (String.ofList text)

/-- A document that can be written is saved, if reviews can be counted in it. -/
theorem save_yields (gist : Value) (hreachable : service.reachable = true) {text : List Char}
    (hwrite : Json.write document = .ok text) {count : ℕ} (hcount : reviewCount document = .ok count) :
    (save gist document).Yields service () (HasText · text) := by
  unfold save
  refine .bind (fetch_yields gist hreachable) fun s₁ h₁ => ?_
  rw [hwrite]
  refine .bind (P := fun s => s.reachable = true) (.ofExcept h₁.1) fun s₂ h₂ => ?_
  refine .bind (P := fun s => s.reachable = true) ⟨rfl, h₂⟩ fun s₃ h₃ => ?_
  refine .bind (P := (HasText · text)) ⟨rfl, h₃, rfl⟩ fun s₄ h₄ => ?_
  rw [hcount]
  exact .bind (.ofExcept h₄) fun s₅ h₅ => ⟨rfl, h₅⟩

/-- A document that cannot be written leaves the stored one. -/
theorem save_of_not_written (gist : Value) (hreachable : service.reachable = true) {e : Json.WriteError}
    (hwrite : Json.write document = .error e) :
    (save gist document service).result = .error e.fault ∧
      (save gist document service).state.reachable = true ∧
      (save gist document service).state.content = service.content := by
  have hfetched := fetch_yields gist hreachable
  unfold save
  rw [Act.bind_ok hfetched.result, hwrite]
  exact ⟨rfl, hfetched.state⟩

theorem isEmpty_text_object (members : List (String × Json)) :
    (String.ofList (Json.object members).text).isEmpty = false := by
  rw [Bool.eq_false_iff, ne_eq, String.isEmpty_iff, ← String.toList_eq_nil_iff, String.toList_ofList]
  cases members <;> exact List.cons_ne_nil _ _

/-- What is loaded from a text. -/
theorem result_load_of_content (gist : Value) (hreachable : service.reachable = true) {content : String}
    (hcontent : service.content = some content) (hfull : content.isEmpty = false) :
    (load gist service).result = documentOf gist content := by
  have hfetched := fetch_yields gist hreachable
  unfold load
  rw [Act.bind_ok hfetched.result, Act.get_bind, hfetched.state.2, hcontent]
  show ((if _ then _ else _ : Act GistService Json) _).result = _
  rw [hfull]
  rfl

/-- What is loaded from the text of an object. -/
theorem result_load_of_hasText (gist : Value) {members : List (String × Json)}
    (h : HasText service (Json.object members).text) : (load gist service).result =
      documentOf gist (String.ofList (Json.object members).text) :=
  result_load_of_content gist h.1 h.2 (isEmpty_text_object members)

/-- A document is read from the text that it was saved as, if it is an object with reviews. -/
theorem load_yields_of_hasText (gist : Value) {members : List (String × Json)}
    (h : HasText service (Json.object members).text)
    (hlegible : Json.Legible Json.maxDepth (.object members))
    (hreviews : Store.withReviews members = members) :
    (load gist).Yields service (.object members) (HasText · (Json.object members).text) := by
  have hdocument : documentOf gist (String.ofList (Json.object members).text) =
      .ok (.object members) := by
    unfold documentOf
    rw [String.toList_ofList, Json.read_text hlegible]
    exact congrArg (fun members => Except.ok (Json.object members)) hreviews
  unfold load
  refine .bind (fetch_yields gist h.1) fun s₁ h₁ => ?_
  have hs₁ : HasText s₁ (Json.object members).text := ⟨h₁.1, h₁.2 ▸ h.2⟩
  refine .bind (P := (HasText · (Json.object members).text)) ⟨rfl, hs₁⟩ fun s₂ h₂ => ?_
  rw [hs₁.2]
  show Act.Yields (if _ then _ else _) _ _ _
  rw [isEmpty_text_object, hdocument]
  exact .ofExcept h₂

/-- The entries are read from the text that they were saved as. -/
theorem load_yields (gist : Value) (h : Holds service entries) (hlegible : Store.AreLegible entries) :
    (load gist).Yields service (Store.documentWith entries) (Holds · entries) := by
  rcases h with ⟨hreachable, ⟨hnone, rfl⟩ | hsome⟩
  · unfold load
    refine .bind (fetch_yields gist hreachable) fun s₁ h₁ => ?_
    have hs₁ : Holds s₁ [] := ⟨h₁.1, .inl ⟨h₁.2.trans hnone, rfl⟩⟩
    refine .bind (P := (Holds · [])) ⟨rfl, hs₁⟩ fun s₂ h₂ => ?_
    rw [h₁.2, hnone]
    exact .pure h₂
  · have hloaded := load_yields_of_hasText gist ⟨hreachable, hsome⟩
      (Store.legible_documentWith hlegible) rfl
    exact hloaded.imp fun s hs => ⟨hs.1, .inr hs.2⟩

/-- Legible entries can be saved. -/
theorem save_documentWith_yields (gist : Value) (hreachable : service.reachable = true)
    {next : List Kept} (hlegible : Store.AreLegible next) :
    (save gist (Store.documentWith next)).Yields service () (Holds · next) := by
  have hsaved := save_yields gist hreachable (Store.legible_documentWith hlegible).write_eq rfl
  exact hsaved.imp fun _ hs => ⟨hs.1, .inr hs.2⟩

theorem keepsEntries (gist : Value) : (store gist).KeepsEntries Holds where
  load := load_yields gist
  save h _ hlegible := save_documentWith_yields gist h.1 hlegible
  clear h := save_documentWith_yields gist h.1 (List.forall_mem_nil _)

end Gist

end CodeReview
