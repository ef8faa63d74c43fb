/-
Why sources are refused. A sequence is read symbol by symbol, and its groups are read in the same way, so the proof
is an induction on the fuel with two invariants on what is left: the fuel is more than twice its length, so it never
runs out, and its opening parentheses and the groups around it are together no more than those of the source
(`Fits`). Hence a source is refused for more than its form only if it has braces, or groups (`explains_of_read`).
-/
import CodeReview.Proofs.Pattern.Reading

namespace CodeReview.Pattern

open Reader

variable {β : Type} {source : List Char} {rest : List Symbol}

/-! ## What is left -/

theorem reads_peek_bind {f : Option Symbol → Reader β} (hnil : Reads source [] (f none))
    (hcons : ∀ symbol left, symbol :: left <:+ rest → Reads source (symbol :: left) (f (some symbol))) :
    Reads source rest (peek >>= f) := by
  intro s hs
  show Leaves source rest (f s.rest.head? s)
  cases hleft : s.rest with
  | nil => exact (hnil s ⟨by rw [hleft], hs.flags⟩).mono List.nil_suffix
  | cons symbol left =>
    have hrest : symbol :: left <:+ rest := hleft ▸ hs.left
    exact (hcons symbol left hrest s ⟨by rw [hleft], hs.flags⟩).mono hrest

/-- Once a symbol has been taken, it is not left. -/
theorem reads_discard_next_bind {symbol : Symbol} {left : List Symbol} {f : PUnit → Reader β}
    (h : Reads source left (f ())) : Reads source (symbol :: left) (discard next >>= f) := by
  intro s hs
  have hstep : (discard next >>= f) s = (next s >>= fun p => f () p.2) := by
    show ((next s >>= fun p => Except.ok (PUnit.unit, p.2)) >>= fun q => f q.1 q.2) = _
    cases next s <;> rfl
  rw [hstep, next_apply]
  have hcons := List.suffix_cons symbol left
  -- the state may have less left than the bound says
  cases hrest : s.rest with
  | nil => exact (h s ⟨by rw [hrest]; exact List.nil_suffix, hs.flags⟩).mono hcons
  | cons symbol' left' =>
    have hleft : left' <:+ left := by
      rcases List.suffix_cons_iff.1 (hrest ▸ hs.left) with heq | hsuffix
      · rw [(List.cons.inj heq).2]
      · exact (List.suffix_cons _ _).trans hsuffix
    have hwithin : IsWithin source left { s with rest := left' } := ⟨hleft, hs.flags⟩
    cases symbol' with
    | spoiled c => trivial
    | plain c => exact (h _ hwithin).mono hcons
    | escaped c => exact (h _ hwithin).mono hcons

theorem accept_apply (c : Char) (s : ReadState) : accept c s =
    if s.rest.head? = some (.plain c) then .ok (true, { s with rest := s.rest.tail }) else .ok (false, s) := by
  unfold accept
  show (if s.rest.head? = some (.plain c) then (do discard next; return true) else return false : Reader Bool) s = _
  split
  · next h =>
    obtain ⟨left, hleft⟩ := List.head?_eq_some_iff.1 h
    show ((next s >>= fun p => Except.ok (PUnit.unit, p.2)) >>= fun q => Except.ok (true, q.2)) = _
    rw [next_apply, hleft]
    rfl
  · rfl

theorem reads_accept_bind {c : Char} {f : Bool → Reader β}
    (hyes : ∀ left, .plain c :: left <:+ rest → Reads source left (f true)) (hno : Reads source rest (f false)) :
    Reads source rest (accept c >>= f) := by
  intro s hs
  show Leaves source rest (accept c s >>= fun p => f p.1 p.2)
  by_cases h : s.rest.head? = some (.plain c)
  · obtain ⟨left, hleft⟩ := List.head?_eq_some_iff.1 h
    have hcons : .plain c :: left <:+ rest := hleft ▸ hs.left
    rw [accept_apply, if_pos h, hleft]
    have hleaves := hyes left hcons { s with rest := left } ⟨List.suffix_rfl, hs.flags⟩
    exact hleaves.mono ((List.suffix_cons _ left).trans hcons)
  · rw [accept_apply, if_neg h]
    exact hno s hs

/-! ## Sequences and alternatives -/

/-- What is left is the end of the source, and two levels are there for each group that may still be opened. -/
structure Fits (source : List Char) (depth : Nat) (left : List Symbol) : Prop where
  suffix : left <:+ symbols source
  opened : depth + 2 * left.count (.plain '(') ≤ 2 * source.count '('

variable {depth fuel : Nat} {left left' : List Symbol}

theorem Fits.mono (h : Fits source depth left) (hleft : left' <:+ left) : Fits source depth left' :=
  ⟨hleft.trans h.suffix,
    (Nat.add_le_add_left (Nat.mul_le_mul_left 2 (hleft.sublist.count_le _)) depth).trans h.opened⟩

/-- A parenthesis makes room for two levels: a group takes both and a condition one. -/
theorem Fits.enter (h : Fits source depth (.plain '(' :: left)) {levels : Nat} (hlevels : levels ≤ 2) :
    Fits source (depth + levels) left := by
  refine ⟨(List.suffix_cons _ left).trans h.suffix, ?_⟩
  have hopened := h.opened
  rw [List.count_cons_self] at hopened
  omega

theorem Fits.explains (h : Fits source depth left) (hdepth : 2 * maxNesting < depth) :
    Explains source .nestedTooDeep := by
  have hopened := h.opened
  show maxNesting < source.count '('
  omega

theorem reads_checkDepth (h : Fits source depth left) : Reads source rest (checkDepth depth) := by
  unfold checkDepth
  split
  · next hdepth => exact .throw (h.explains hdepth)
  · exact .pure _

theorem Fits.mem {c : Char} (h : Fits source depth (.plain c :: left)) : c ∈ source :=
  mem_of_mem_symbols (h.suffix.subset (List.mem_cons_self ..))

/-- A sequence is read with that much fuel. -/
def SequencesRead (source : List Char) (fuel : Nat) : Prop :=
  ∀ {depth left}, Fits source depth left → 2 * left.length < fuel → ∀ flags isFirst reversed,
    Reads source left (readSequence fuel depth flags isFirst reversed)

/-- Alternatives are read with that much fuel. -/
def AlternativesRead (source : List Char) (fuel : Nat) : Prop :=
  ∀ {depth left}, Fits source depth left → 2 * left.length + 1 < fuel → ∀ flags before,
    Reads source left (readAlternatives fuel depth flags before)

theorem AlternativesRead.succ (hsequence : SequencesRead source fuel) (halternatives : AlternativesRead source fuel) :
    AlternativesRead source (fuel + 1) := by
  intro depth left hfits hfuel flags before
  unfold readAlternatives
  refine .bind (reads_checkDepth hfits) fun _ => ?_
  extract_lets withFlags
  have hread (flags : Flags) : Reads source left (withFlags flags) := by
    refine .bind (hsequence hfits (by omega) _ _ _) fun part => reads_accept_bind (fun left' hleft' => ?_) ?_
    · have hlength := hleft'.length_le
      rw [List.length_cons] at hlength
      exact halternatives (hfits.mono ((List.suffix_cons _ left').trans hleft')) (by omega) _ _
    · split
      · contradiction
      · split
        · exact .pure _
        · exact .pure _
        · exact .pure _
  exact .ite (.get_bind' fun _ => .bind (.pure _) hread) (.bind (.pure _) hread)

theorem SequencesRead.succ (hsequence : SequencesRead source fuel) (halternatives : AlternativesRead source fuel) :
    SequencesRead source (fuel + 1) := by
  intro depth left hfits hfuel flags isFirst reversed
  unfold readSequence
  refine reads_peek_bind (.pure _) fun symbol left' hleft => ?_
  have hlength := hleft.length_le
  rw [List.length_cons] at hlength
  have hhere : Fits source depth (symbol :: left') := hfits.mono hleft
  have hgo (flags : Flags) (isFirst : Bool) (reversed : List Part) :
      Reads source left' (readSequence fuel depth flags isFirst reversed) :=
    hsequence (hhere.mono (List.suffix_cons _ left')) (by omega) _ _ _
  cases symbol with
  | spoiled c => exact .ite (.pure _) .fail
  | escaped c =>
    have hbackslash : '\\' ∈ source := mem_of_escaped_mem_symbols (hhere.suffix.subset List.mem_cons_self)
    exact reads_discard_next_bind (.bind (reads_readEscape hbackslash _ _) fun _ => hgo _ _ _)
  | plain c =>
    -- blanks and comments of verbose sources, then what one symbol begins
    refine .ite (.pure _) (reads_discard_next_bind (.ite (hgo _ _ _) (.ite ?_ ?_)))
    · exact .bind reads_remaining fun _ => .bind (reads_skipLineComment _) fun _ => hgo _ _ _
    refine .ite (.bind (reads_readSet ((List.suffix_cons _ left').trans hhere.suffix) _) fun _ => hgo _ _ _) ?_
    have hrepeat (least : Nat) (most : Option Nat) : Reads source left' (do
        readSequence fuel depth flags isFirst (← readRepetition reversed least most)) :=
      .bind (reads_readRepetition _ _ _) fun _ => hgo _ _ _
    refine .ite (hrepeat 0 none) (.ite (hrepeat 1 none) (.ite (hrepeat 0 (some 1)) ?_))
    split
    · next hbrace =>
      -- a count may be too large, but then the source has a brace
      refine .bind (reads_readBounds (hbrace ▸ hhere.mem)) fun bounds => ?_
      cases bounds with
      | none => exact hgo _ _ _
      | some bounds => exact hrepeat bounds.1 bounds.2
    refine .ite (hgo _ _ _) (.ite (hgo _ _ _) (.ite (hgo _ _ _) ?_))
    split
    · next hgroup =>
      subst hgroup
      -- one parenthesis less is left, so the contents may be two levels deeper
      have hcontents (flags : Flags) : Reads source left' (readAlternatives fuel (depth + 2) flags []) :=
        halternatives (hhere.enter Nat.le.refl) (by omega) _ _
      have hinside : Fits source (depth + 1) left' := hhere.enter (by omega)
      have hbranch : Reads source left' (readSequence fuel (depth + 1) flags false []) :=
        hsequence hinside (by omega) _ _ _
      refine .bind (reads_readOpening hhere.mem flags) fun opening => ?_
      cases opening with
      | nothing => exact hgo _ _ _
      | part part => exact hgo _ _ _
      | globalFlags => exact .first .fail (.get_bind' fun _ => hgo _ _ _)
      | group captures name isAtomic inside =>
        dsimp -zeta only
        extract_lets withIndex
        have hindex (index : Option Nat) : Reads source left' (withIndex index) := by
          refine .bind (hcontents inside) fun contents => .bind (reads_expect _) fun _ => ?_
          cases index with
          | none => exact hgo _ _ _
          | some index => exact .bind (reads_closeGroup _ _) fun _ => hgo _ _ _
        exact .ite (.bind (reads_openGroup name) fun _ => .bind (.pure _) hindex) (.bind (.pure _) hindex)
      | look isAhead negated =>
        -- entering and leaving a look behind changes neither what is left nor the flags
        refine .get_bind' fun s => .first (.modify fun _ hs => ⟨hs.left, hs.flags⟩) ?_
        refine .bind (hcontents flags) fun _ => ?_
        exact .first (.modify fun _ hs => ⟨hs.left, hs.flags⟩)
          (.bind (reads_expect _) fun _ => .bind (reads_lookPart _ _ _) fun _ => hgo _ _ _)
      | condition index =>
        refine .bind (reads_checkDepth hinside) fun _ => .bind hbranch fun yes => .bind (reads_accept _) fun _ => ?_
        extract_lets withNo
        have hno (no : Part) : Reads source left' (withNo no) := .bind (reads_expect _) fun _ => hgo _ _ _
        refine .ite (.bind hbranch fun no => .bind reads_peek fun _ => .first .fail ?_) (.bind (.pure _) hno)
        exact .bind (.pure _) hno
    · exact hgo _ _ _

/-- With enough fuel for what is left, sequences and alternatives are read. -/
theorem sequencesRead_alternativesRead (source : List Char) (fuel : Nat) :
    SequencesRead source fuel ∧ AlternativesRead source fuel := by
  induction fuel with
  | zero => exact ⟨fun _ hfuel => absurd hfuel (Nat.not_lt_zero _), fun _ hfuel => absurd hfuel (Nat.not_lt_zero _)⟩
  | succ fuel ih => exact ⟨SequencesRead.succ ih.1 ih.2, AlternativesRead.succ ih.1 ih.2⟩

/-! ## Whole sources -/

theorem reads_remaining_bind {f : Nat → Reader β} (h : ∀ left, left <:+ rest → Reads source left (f left.length)) :
    Reads source rest (remaining >>= f) := fun s hs =>
  (h s.rest hs.left s ⟨List.suffix_rfl, hs.flags⟩).mono hs.left

theorem reads_readAll (source : List Char) : Reads source (symbols source) readAll := by
  unfold readAll
  refine reads_remaining_bind fun left hleft => ?_
  have hfits : Fits source 0 left :=
    ⟨hleft, (Nat.zero_add _).le.trans
      (Nat.mul_le_mul_left 2 ((hleft.sublist.count_le _).trans (count_symbols_le '(' source)))⟩
  refine .bind ((sequencesRead_alternativesRead source _).2 hfits (by omega) _ _) fun part => .get_bind fun s hs => ?_
  extract_lets whenRead atEnd withFlags
  have hend : Reads source left (atEnd ()) := .first .fail (.pure _)
  have hflags : Reads source left (withFlags ()) := .first .fail hend
  split
  · next hboth =>
    refine .bind (.throw (hs.flags.resolve_left fun heq => ?_)) fun _ => hflags
    rw [heq] at hboth
    cases hboth
  · exact hflags

/-- A source is refused only for reasons that it explains. -/
theorem explains_of_read {e : ReadError} (h : read source = .error e) : Explains source e := by
  have hread := reads_readAll source { rest := symbols source } ⟨List.suffix_rfl, .inl rfl⟩
  have hrun : read source = (readAll { rest := symbols source }).map (·.1) := rfl
  rw [hrun] at h
  cases hall : readAll { rest := symbols source } with
  | error e' =>
    rw [hall] at h hread
    cases h
    exact hread
  | ok p =>
    rw [hall] at h
    cases h

end CodeReview.Pattern
