/-
Acts: what one gives in a state and what holds of the state it leaves (`Yields`), what no state that it
leaves can lose (`Preserves`), and what it gives in all the states with a property (`Steady`).
-/
import CodeReview.Act

namespace CodeReview.Act

variable {σ τ α β : Type} {s : σ} {a : α} {b : β} {P Q : σ → Prop}

/-! ## Sequences -/

theorem bind_ok {act : Act σ α} {next : α → Act σ β} (h : (act s).result = .ok a) :
    (act >>= next) s = ⟨(next a (act s).state).result, (next a (act s).state).state,
      (act s).notices ++ (next a (act s).state).notices,
      (act s).shown ++ (next a (act s).state).shown⟩ := by
  show Act.bind act next s = _
  unfold Act.bind
  dsimp only
  simp only [h]

theorem bind_error {act : Act σ α} {next : α → Act σ β} {fault : Fault}
    (h : (act s).result = .error fault) :
    (act >>= next) s = ⟨.error fault, (act s).state, (act s).notices, (act s).shown⟩ := by
  show Act.bind act next s = _
  unfold Act.bind
  dsimp only
  simp only [h]

theorem bind_pure_act (act : Act σ α) : (act >>= fun a => pure a) = act := by
  funext s
  cases h : (act s).result with
  | error fault => rw [bind_error h, ← h]
  | ok a =>
    rw [bind_ok h, result_pure, ← h]
    show Outcome.mk (act s).result (act s).state ((act s).notices ++ []) ((act s).shown ++ []) = _
    rw [List.append_nil, List.append_nil]

theorem bind_assoc_act {γ : Type} (act : Act σ α) (next : α → Act σ β) (more : β → Act σ γ) :
    (act >>= next) >>= more = act >>= fun a => next a >>= more := by
  funext s
  cases h : (act s).result with
  | error fault =>
    have hfirst : ((act >>= next) s).result = .error fault := by rw [bind_error h]
    rw [bind_error hfirst, bind_error h, bind_error h]
  | ok a =>
    have hboth : (act >>= fun a => next a >>= more) s = _ := bind_ok h
    rw [hboth]
    cases hnext : (next a (act s).state).result with
    | error fault =>
      have hfirst : ((act >>= next) s).result = .error fault := by rw [bind_ok h, hnext]
      rw [bind_error hfirst, bind_error hnext, bind_ok h]
    | ok b =>
      have hfirst : ((act >>= next) s).result = .ok b := by rw [bind_ok h, hnext]
      rw [bind_ok hfirst, bind_ok hnext, bind_ok h, List.append_assoc, List.append_assoc]

instance : LawfulMonad (Act σ) :=
  LawfulMonad.mk' (Act σ) bind_pure_act (fun _ _ => rfl) bind_assoc_act

/-! ## First steps -/

theorem ofExcept_ok (a : α) : (ofExcept (.ok a) : Act σ α) = pure a := rfl

theorem get_bind (next : σ → Act σ β) (s : σ) : (get >>= next) s = next s s := rfl

/-! ## Trying to change the state -/

theorem tryModify_of_ok {f : σ → Except Fault σ} {s' : σ} (h : f s = .ok s') :
    tryModify f s = ⟨.ok (), s', [], []⟩ := by
  unfold tryModify
  rw [h]

theorem tryModify_of_error {f : σ → Except Fault σ} {fault : Fault} (h : f s = .error fault) :
    tryModify f s = ⟨.error fault, s, [], []⟩ := by
  unfold tryModify
  rw [h]

theorem tryModify_eq_ok_iff {f : σ → Except Fault σ} :
    (tryModify f s).result = .ok () ↔ ∃ s', f s = .ok s' ∧ (tryModify f s).state = s' := by
  cases h : f s with
  | ok s' =>
    rw [tryModify_of_ok h]
    exact iff_of_true rfl ⟨s', rfl, rfl⟩
  | error fault =>
    rw [tryModify_of_error h]
    exact iff_of_false nofun fun ⟨_, hf, _⟩ => nomatch hf

/-! ## Results -/

/-- In the state `s` the act gives `a` and leaves a state with a property. -/
structure Yields (act : Act σ α) (s : σ) (a : α) (P : σ → Prop) : Prop where
  result : (act s).result = .ok a
  state : P (act s).state

namespace Yields

theorem pure (h : P s) : Yields (pure a) s a P := ⟨rfl, h⟩

theorem ofExcept (h : P s) : Yields (ofExcept (.ok a)) s a P := ⟨rfl, h⟩

theorem tryModify {f : σ → Except Fault σ} {s' : σ} (h : f s = .ok s') (hs' : P s') :
    Yields (tryModify f) s () P := by
  constructor
  · rw [tryModify_of_ok h]
  · rw [tryModify_of_ok h]
    exact hs'

theorem noteAll {notices : List Notice} (h : P s) : Yields (noteAll notices) s () P := ⟨rfl, h⟩

theorem attempt {act : Act σ α} (h : Yields act s a P) : Yields (attempt act) s (.ok a) P :=
  ⟨by rw [result_attempt, h.result], h.state⟩

theorem bind {act : Act σ α} {next : α → Act σ β} (h : Yields act s a P)
    (hnext : ∀ s', P s' → Yields (next a) s' b Q) : Yields (act >>= next) s b Q := by
  have hthen := hnext _ h.state
  constructor
  · rw [result_bind, h.result]
    exact hthen.result
  · rw [state_bind, h.result]
    exact hthen.state

theorem imp {act : Act σ α} (h : Yields act s a P) (himp : ∀ s', P s' → Q s') : Yields act s a Q :=
  ⟨h.result, himp _ h.state⟩

end Yields

/-! ## What is kept -/

/-- A property of the state that the act does not take from it, whatever it comes to. -/
def Preserves (P : σ → Prop) (act : Act σ α) : Prop := ∀ s, P s → P (act s).state

namespace Preserves

variable {act : Act σ α}

theorem pure (a : α) : Preserves P (pure a : Act σ α) := fun _ h => h

theorem fail (fault : Fault) : Preserves P (fail fault : Act σ α) := fun _ h => h

theorem ofExcept (result : Except Fault α) : Preserves P (ofExcept result) := fun _ h => h

theorem get : Preserves P (get : Act σ σ) := fun _ h => h

theorem note (notice : Notice) : Preserves P (note notice) := fun _ h => h

theorem noteAll (notices : List Notice) : Preserves P (noteAll notices) := fun _ h => h

theorem display (item : Shown) : Preserves P (display item) := fun _ h => h

theorem attempt (h : Preserves P act) : Preserves P (attempt act) := h

/-- What holds after the first of two acts, and is not lost to the second. -/
theorem after {next : α → Act σ β} (h : P (act s).state) (hnext : ∀ a, Preserves P (next a)) :
    P ((act >>= next) s).state := by
  rw [state_bind]
  split
  · exact hnext _ _ h
  · exact h

theorem bind {next : α → Act σ β} (h : Preserves P act) (hnext : ∀ a, Preserves P (next a)) :
    Preserves P (act >>= next) := fun s hs => after (h s hs) hnext

theorem tryModify {f : σ → Except Fault σ} (h : ∀ s s', P s → f s = .ok s' → P s') :
    Preserves P (tryModify f) := by
  intro s hs
  cases hf : f s with
  | ok s' =>
    rw [tryModify_of_ok hf]
    exact h s s' hs hf
  | error fault =>
    rw [tryModify_of_error hf]
    exact hs

/-- An act on a part of the state. -/
theorem within {part : τ → σ} {update : σ → τ → τ} {Q : τ → Prop} (h : Preserves P act)
    (hpart : ∀ t, Q t → P (part t)) (hupdate : ∀ t s, Q t → P s → Q (update s t)) :
    Preserves Q (act.within part update) :=
  fun t ht => hupdate t _ ht (h _ (hpart t ht))

end Preserves

/-! ## What is always given -/

/-- The act gives the same in all states with a property, and keeps the property. -/
def Steady (P : σ → Prop) (act : Act σ α) : Prop :=
  ∃ result, ∀ s, P s → (act s).result = result ∧ P (act s).state

namespace Steady

variable {act : Act σ α}

theorem preserves (h : Steady P act) : Preserves P act := by
  obtain ⟨result, h⟩ := h
  exact fun s hs => (h s hs).2

/-- Two states with the property get the same. -/
theorem result_eq (h : Steady P act) {s t : σ} (hs : P s) (ht : P t) :
    (act s).result = (act t).result := by
  obtain ⟨result, h⟩ := h
  rw [(h s hs).1, (h t ht).1]

theorem pure (a : α) : Steady P (pure a : Act σ α) := ⟨.ok a, fun _ h => ⟨rfl, h⟩⟩

theorem fail (fault : Fault) : Steady P (fail fault : Act σ α) := ⟨.error fault, fun _ h => ⟨rfl, h⟩⟩

theorem ofExcept (result : Except Fault α) : Steady P (ofExcept result) :=
  ⟨result, fun _ h => ⟨rfl, h⟩⟩

theorem note (notice : Notice) : Steady P (note notice) := ⟨.ok (), fun _ h => ⟨rfl, h⟩⟩

theorem attempt (h : Steady P act) : Steady P (attempt act) := by
  obtain ⟨result, h⟩ := h
  exact ⟨.ok result, fun s hs => ⟨congrArg Except.ok (h s hs).1, (h s hs).2⟩⟩

theorem bind {next : α → Act σ β} (h : Steady P act) (hnext : ∀ a, Steady P (next a)) :
    Steady P (act >>= next) := by
  obtain ⟨result, h⟩ := h
  cases result with
  | error fault =>
    refine ⟨.error fault, fun s hs => ?_⟩
    rw [bind_error (h s hs).1]
    exact ⟨rfl, (h s hs).2⟩
  | ok a =>
    obtain ⟨result, hnext⟩ := hnext a
    refine ⟨result, fun s hs => ?_⟩
    rw [bind_ok (h s hs).1]
    exact hnext _ (h s hs).2

end Steady

end CodeReview.Act
