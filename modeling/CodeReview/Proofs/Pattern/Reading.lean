/-
Readers of patterns by what they leave. While a source is read, what is left of it becomes a suffix of itself, and
global flags are set only if there are groups (`IsWithin`). A reader keeps to this, and where it fails the source
has in it what explains the failure (`Reads`). Such readers can be put together, and all parts of the reader of
patterns below sequences and alternatives are such readers.
-/
import CodeReview.Pattern.Reader
import Mathlib.Data.List.Infix

namespace CodeReview.Pattern

open Reader

/-- What a source has in it that is refused for that reason: braces for a number that is out of range, an escape for
a code point that is, groups for flags that contradict each other, and more opening parentheses than groups may be
nested. -/
def Explains (source : List Char) : ReadError → Prop
  | .malformed => True
  | .countTooLarge | .numberTooLong => '{' ∈ source
  | .codeTooLarge => '\\' ∈ source
  | .contradictoryFlags => '(' ∈ source
  | .nestedTooDeep => maxNesting < source.count '('

/-- No more than `rest` is left to read, and there are no global flags without groups. -/
structure IsWithin (source : List Char) (rest : List Symbol) (s : ReadState) : Prop where
  left : s.rest <:+ rest
  flags : s.globalFlags = {} ∨ '(' ∈ source

/-- No more than `rest` is left after the reading, or it failed for a reason that the source explains. -/
def Leaves {α : Type} (source : List Char) (rest : List Symbol) : Except ReadError (α × ReadState) → Prop
  | .ok (_, s) => IsWithin source rest s
  | .error e => Explains source e

/-- The reader leaves no more than `rest` of no more than `rest`, sets global flags only if there are groups, and
fails only for reasons that the source explains. -/
def Reads {α : Type} (source : List Char) (rest : List Symbol) (m : Reader α) : Prop :=
  ∀ s, IsWithin source rest s → Leaves source rest (m s)

variable {α β : Type} {source : List Char} {rest rest' : List Symbol}

theorem IsWithin.mono {s : ReadState} (h : IsWithin source rest s) (hrest : rest <:+ rest') :
    IsWithin source rest' s := ⟨h.left.trans hrest, h.flags⟩

theorem Leaves.mono {outcome : Except ReadError (α × ReadState)} (h : Leaves source rest outcome)
    (hrest : rest <:+ rest') : Leaves source rest' outcome := by
  cases outcome with
  | error e => exact h
  | ok p => exact IsWithin.mono h hrest

/-! ## Symbols of a source -/

/-- The symbols that stand for themselves are characters of the source. -/
theorem count_symbols_le (c : Char) (source : List Char) : (symbols source).count (.plain c) ≤ source.count c := by
  fun_induction symbols source with
  | case1 => exact Nat.le_refl 0
  | case2 | case3 | case5 =>
    rw [List.count_eq_zero.2 (by simp)]
    exact Nat.zero_le _
  | case4 d rest _ ih =>
    rw [List.count_cons_of_ne (by simp)]
    exact ih.trans (((List.sublist_cons_self d rest).trans (List.sublist_cons_self _ _)).count_le c)
  | case6 d rest _ _ _ ih =>
    rw [List.count_cons, List.count_cons]
    simp only [beq_iff_eq, Symbol.plain.injEq]
    exact Nat.add_le_add_right ih _

theorem mem_of_mem_symbols {c : Char} (h : .plain c ∈ symbols source) : c ∈ source :=
  List.count_pos_iff.1 ((List.count_pos_iff.2 h).trans_le (count_symbols_le c source))

/-- Only a backslash makes an escape. -/
theorem mem_of_escaped_mem_symbols {c : Char} (h : .escaped c ∈ symbols source) : '\\' ∈ source := by
  fun_induction symbols source with
  | case1 => cases h
  | case2 | case3 | case5 => simp at h
  | case4 => exact List.mem_cons_self
  | case6 d rest _ _ _ ih =>
    rcases List.mem_cons.1 h with heq | hmem
    · cases heq
    · exact List.mem_cons_of_mem d (ih hmem)

/-! ## Putting readers together -/

namespace Reads

theorem pure (a : α) : Reads source rest (pure a : Reader α) := fun _ hs => hs

theorem fail : Reads source rest (Reader.fail : Reader α) := fun _ _ => trivial

theorem throw {e : ReadError} (h : Explains source e) : Reads source rest (throw e : Reader α) := fun _ _ => h

theorem bind {m : Reader α} {f : α → Reader β} (hm : Reads source rest m) (hf : ∀ a, Reads source rest (f a)) :
    Reads source rest (m >>= f) := by
  intro s hs
  have hfirst := hm s hs
  show Leaves source rest (m s >>= fun p => f p.1 p.2)
  cases hms : m s with
  | error e =>
    rw [hms] at hfirst
    exact hfirst
  | ok p =>
    rw [hms] at hfirst
    exact hf p.1 p.2 hfirst

/-- A choice between two readers. -/
theorem ite {p : Prop} [Decidable p] {m m' : Reader α} (h : Reads source rest m) (h' : Reads source rest m') :
    Reads source rest (if p then m else m') := by
  split
  · exact h
  · exact h'

/-- Something that may be done first. -/
theorem first {p : Prop} [Decidable p] {m : Reader PUnit} {f : PUnit → Reader α} (hm : Reads source rest m)
    (hf : Reads source rest (f ())) : Reads source rest (if p then m >>= f else f ()) :=
  ite (bind hm fun _ => hf) hf

theorem get_bind {f : ReadState → Reader β} (hf : ∀ s, IsWithin source rest s → Reads source rest (f s)) :
    Reads source rest (get >>= f) := fun s hs => hf s hs s hs

theorem get_bind' {f : ReadState → Reader β} (hf : ∀ s, Reads source rest (f s)) :
    Reads source rest (get >>= f) := get_bind fun s _ => hf s

theorem set {s : ReadState} (hs : IsWithin source rest s) : Reads source rest (set s : Reader PUnit) := fun _ _ => hs

theorem modify {f : ReadState → ReadState} (hf : ∀ s, IsWithin source rest s → IsWithin source rest (f s)) :
    Reads source rest (modify f) := hf

end Reads

/-! ## Symbols -/

theorem next_apply (s : ReadState) : next s = match s.rest with
    | [] => .ok (none, s)
    | .spoiled _ :: _ => .error .malformed
    | symbol :: rest => .ok (some symbol, { s with rest }) := by
  unfold next
  show (match s.rest with
    | [] => (Pure.pure none : Reader (Option Symbol))
    | .spoiled _ :: _ => Reader.fail
    | symbol :: rest => _) s = _
  rcases s.rest with _ | ⟨_ | _ | _, _⟩ <;> rfl

theorem reads_next : Reads source rest next := by
  intro s hs
  rw [next_apply]
  cases hrest : s.rest with
  | nil => exact hs
  | cons symbol left =>
    have hleft : IsWithin source rest { s with rest := left } :=
      ⟨(hrest ▸ List.suffix_cons symbol left : left <:+ s.rest).trans hs.left, hs.flags⟩
    cases symbol with
    | spoiled c => trivial
    | plain c => exact hleft
    | escaped c => exact hleft

/-- Where the next symbol is an escape, the source has a backslash. -/
theorem reads_next_bind {f : Option Symbol → Reader β} (hrest : rest <:+ symbols source)
    (hf : ∀ symbol, (∀ c, symbol = some (.escaped c) → '\\' ∈ source) → Reads source rest (f symbol)) :
    Reads source rest (next >>= f) := by
  intro s hs
  have hnext := reads_next s hs
  show Leaves source rest (next s >>= fun p => f p.1 p.2)
  rw [next_apply] at hnext ⊢
  cases hleft : s.rest with
  | nil =>
    rw [hleft] at hnext
    exact hf none nofun s hnext
  | cons symbol left =>
    rw [hleft] at hnext
    have hmem : symbol ∈ symbols source := (hs.left.trans hrest).subset (hleft ▸ List.mem_cons_self)
    cases symbol with
    | spoiled c => trivial
    | plain c => exact hf (some (.plain c)) nofun _ hnext
    | escaped c => exact hf (some (.escaped c)) (fun _ _ => mem_of_escaped_mem_symbols hmem) _ hnext

theorem reads_peek : Reads source rest peek := fun _ hs => hs

theorem reads_discard {m : Reader α} (h : Reads source rest m) : Reads source rest (discard m) :=
  .bind h fun _ => .pure _

theorem reads_accept (c : Char) : Reads source rest (accept c) := by
  unfold accept
  exact .bind reads_peek fun _ => .ite (.bind (reads_discard reads_next) fun _ => .pure _) (.pure _)

theorem reads_expect (c : Char) : Reads source rest (expect c) := by
  unfold expect
  exact .bind (reads_accept c) fun _ => .ite .fail (.pure _)

theorem reads_remaining : Reads source rest remaining := .get_bind' fun _ => .pure _

theorem reads_takeWhile (test : Char → Bool) (limit : Nat) : Reads source rest (takeWhile test limit) := by
  induction limit with
  | zero => exact .pure _
  | succ limit ih =>
    unfold takeWhile
    refine .bind reads_peek fun symbol => ?_
    split
    · exact .ite (.bind (reads_discard reads_next) fun _ => .bind ih fun _ => .pure _) (.pure _)
    · exact .pure _

theorem reads_takeUntil (terminator : Char) (fuel : Nat) (taken : List Char) :
    Reads source rest (takeUntil terminator fuel taken) := by
  induction fuel generalizing taken with
  | zero => exact .fail
  | succ fuel ih =>
    unfold takeUntil
    refine .bind reads_next fun symbol => ?_
    split
    · exact .fail
    · exact .fail
    · exact .ite (.ite .fail (.pure _)) (ih _)
    · exact ih _

/-! ## Groups that have been read -/

theorem reads_groupCount : Reads source rest groupCount := .get_bind' fun _ => .pure _

theorem reads_closedGroup (index : Nat) : Reads source rest (closedGroup? index) := .get_bind' fun _ => .pure _

theorem reads_openGroup (name : Option String) : Reads source rest (openGroup name) := by
  unfold openGroup
  refine .get_bind fun s hs => ?_
  cases name with
  | none => exact .bind (.set ⟨hs.left, hs.flags⟩) fun _ => .pure _
  | some name => exact .first .fail (.bind (.set ⟨hs.left, hs.flags⟩) fun _ => .pure _)

theorem reads_closeGroup (index : Nat) (width : Width) : Reads source rest (closeGroup index width) :=
  .modify fun _ hs => ⟨hs.left, hs.flags⟩

theorem reads_checkBehind (index : Nat) : Reads source rest (checkBehind index) := by
  unfold checkBehind
  refine .get_bind' fun s => ?_
  split
  · exact .pure _
  · exact .bind (reads_closedGroup index) fun _ => .first .fail (.ite .fail (.pure _))

/-! ## Escapes -/

theorem reads_readHex (count : Nat) : Reads source rest (readHex count) := by
  unfold readHex
  exact .bind (reads_takeWhile _ _) fun _ => .ite (.pure _) .fail

theorem reads_readNamed : Reads source rest readNamed := by
  unfold readNamed
  refine .bind (reads_expect _) fun _ => .bind reads_remaining fun _ => .bind (reads_takeUntil _ _ _) fun name => ?_
  split
  · exact .fail
  · exact .pure _

theorem reads_readCode (h : '\\' ∈ source) (c : Char) : Reads source rest (readCode c) := by
  unfold readCode
  refine .ite (reads_readHex 2) (.ite (reads_readHex 4) (.ite ?_ (.ite reads_readNamed (.ite .fail (.pure _)))))
  exact .bind (reads_readHex 8) fun _ => .first (.throw h) (.ite .fail (.pure _))

theorem reads_readSetEscape (h : '\\' ∈ source) (ascii : Bool) (c : Char) :
    Reads source rest (readSetEscape ascii c) := by
  unfold readSetEscape
  split
  · exact .pure _
  · split
    · exact .pure _
    · refine .ite (.bind (reads_takeWhile _ _) fun _ => .ite .fail (.pure _)) (.ite .fail ?_)
      exact .bind (reads_readCode h c) fun _ => .pure _

theorem reads_readRecall (flags : Flags) (index : Nat) : Reads source rest (readRecall flags index) := by
  unfold readRecall
  refine .bind reads_groupCount fun _ => .first .fail (.bind (reads_closedGroup index) fun width => ?_)
  cases width with
  | none => exact .fail
  | some width => exact .bind (reads_checkBehind index) fun _ => .pure _

theorem reads_readNumbered (flags : Flags) (c : Char) : Reads source rest (readNumbered flags c) := by
  unfold readNumbered
  refine .ite (.bind (reads_takeWhile _ _) fun _ => .pure _) (.bind reads_peek fun symbol => ?_)
  split
  · refine .ite (.bind (reads_discard reads_next) fun _ => .bind reads_peek fun symbol => ?_)
      (reads_readRecall _ _)
    split
    · exact .ite (.bind (reads_discard reads_next) fun _ => .ite .fail (.pure _)) (reads_readRecall _ _)
    · exact reads_readRecall _ _
  · exact reads_readRecall _ _

theorem reads_readEscape (h : '\\' ∈ source) (flags : Flags) (c : Char) : Reads source rest (readEscape flags c) := by
  unfold readEscape
  refine .ite (.pure _) (.ite (.pure _) (.ite (.pure _) (.ite (.pure _) ?_)))
  split
  · exact .pure _
  · split
    · exact .pure _
    · exact .ite (reads_readNumbered flags c) (.bind (reads_readCode h c) fun _ => .pure _)

/-! ## Sets -/

theorem reads_readSetItem {symbol : Symbol} (h : ∀ c, some symbol = some (.escaped c) → '\\' ∈ source) (ascii : Bool) :
    Reads source rest (readSetItem ascii symbol) := by
  cases symbol with
  | plain c => exact .pure _
  | escaped c => exact reads_readSetEscape (h c rfl) ascii c
  | spoiled c => exact .fail

theorem reads_readSetItems (hrest : rest <:+ symbols source) (ascii : Bool) (fuel : Nat) (items : List SetItem) :
    Reads source rest (readSetItems ascii fuel items) := by
  induction fuel generalizing items with
  | zero => exact .fail
  | succ fuel ih =>
    unfold readSetItems
    refine reads_next_bind hrest fun symbol hsymbol => ?_
    cases symbol with
    | none => exact .fail
    | some symbol =>
      refine .ite (.pure _) (.bind (reads_readSetItem hsymbol ascii) fun first => .bind (reads_accept _) fun _ =>
        .ite (reads_next_bind hrest fun symbol hsymbol => ?_) (ih _))
      cases symbol with
      | none => exact .fail
      | some symbol =>
        refine .ite (.pure _) (.bind (reads_readSetItem hsymbol ascii) fun last => ?_)
        split
        · exact .ite .fail (ih _)
        · exact .fail

theorem reads_readSet (hrest : rest <:+ symbols source) (flags : Flags) : Reads source rest (readSet flags) := by
  unfold readSet
  exact .bind (reads_accept _) fun _ => .bind reads_remaining fun _ => .bind (reads_readSetItems hrest _ _ _) fun _ =>
    .pure _

/-! ## Repetitions -/

theorem reads_readBound (h : '{' ∈ source) (digits : List Char) : Reads source rest (readBound digits) := by
  unfold readBound
  exact .ite (.pure _) (.first (.throw h) (.ite (.throw h) (.pure _)))

/-- The numbers between braces; where they are none, the reader goes back. -/
theorem reads_readBounds (h : '{' ∈ source) : Reads source rest readBounds? := by
  unfold readBounds?
  refine .bind reads_peek fun _ => .ite (.pure _) (.get_bind fun start hstart => .bind reads_remaining fun fuel =>
    .bind (reads_takeWhile _ _) fun low => .bind (reads_accept _) fun _ => ?_)
  extract_lets withHigh
  have hhigh (high : List Char) : Reads source rest (withHigh high) := by
    refine .bind (reads_accept _) fun _ => .ite ?_ (.bind (.set hstart) fun _ => .pure _)
    refine .bind (reads_readBound h low) fun least => .bind (reads_readBound h high) fun most => ?_
    cases most with
    | none => exact .pure _
    | some most => exact .first .fail (.pure _)
  exact .ite (.bind (reads_takeWhile _ _) hhigh) (.bind (.pure _) hhigh)

theorem reads_readKind : Reads source rest readKind := by
  unfold readKind
  exact .bind (reads_accept _) fun _ => .ite (.pure _) (.bind (reads_accept _) fun _ => .ite (.pure _) (.pure _))

theorem reads_readRepetition (reversed : List Part) (least : Nat) (most : Option Nat) :
    Reads source rest (readRepetition reversed least most) := by
  unfold readRepetition
  cases reversed with
  | nil => exact .fail
  | cons last before =>
    exact .first .fail (.bind (.modify fun _ hs => ⟨hs.left, hs.flags⟩) fun _ => .bind reads_readKind fun _ => .pure _)

/-! ## What a parenthesis opens -/

theorem reads_readAdded (c : Char) (added : Flags) (fuel : Nat) :
    Reads source rest (readFlags.readAdded c added fuel) := by
  induction fuel generalizing c added with
  | zero => exact .fail
  | succ fuel ih =>
    unfold readFlags.readAdded
    split
    · exact .fail
    · refine .first .fail (.bind reads_next fun symbol => ?_)
      split
      · exact .ite (.pure _) (ih _ _)
      · exact .fail

theorem reads_readRemoved (removed : Flags) (fuel : Nat) :
    Reads source rest (readFlags.readRemoved removed fuel) := by
  induction fuel generalizing removed with
  | zero => exact .fail
  | succ fuel ih =>
    unfold readFlags.readRemoved
    refine .bind reads_next fun symbol => ?_
    split
    · split
      · exact .fail
      · exact .first .fail (.bind (reads_accept _) fun _ => .ite (.pure _) (ih _))
    · exact .fail

/-- Flags are read after an opening parenthesis, so there are groups. -/
theorem reads_readFlags (h : '(' ∈ source) (c : Char) : Reads source rest (readFlags c) := by
  unfold readFlags
  extract_lets withAdded
  have hadded (given : Flags × Char) : Reads source rest (withAdded given) := by
    obtain ⟨added, stop⟩ := given
    refine .ite (.bind (.modify fun s hs => ⟨hs.left, .inr h⟩) fun _ => .pure _) (.first .fail ?_)
    refine .ite (.bind reads_remaining fun _ => .bind (reads_readRemoved _ _) fun _ => ?_)
      (.bind (.pure _) fun _ => ?_)
    · exact .first .fail (.pure _)
    · exact .first .fail (.pure _)
  exact .ite (.bind (.pure _) hadded) (.bind reads_remaining fun _ => .bind (reads_readAdded _ _ _) hadded)

theorem reads_skipComment (fuel : Nat) : Reads source rest (skipComment fuel) := by
  induction fuel with
  | zero => exact .fail
  | succ fuel ih =>
    unfold skipComment
    refine .bind reads_next fun symbol => ?_
    cases symbol with
    | none => exact .fail
    | some symbol => exact .ite (.pure _) ih

theorem reads_skipLineComment (fuel : Nat) : Reads source rest (skipLineComment fuel) := by
  induction fuel with
  | zero => exact .pure _
  | succ fuel ih =>
    unfold skipLineComment
    refine .bind reads_next fun symbol => ?_
    cases symbol with
    | none => exact .pure _
    | some symbol => exact .ite (.pure _) ih

theorem reads_readConditionGroup : Reads source rest readConditionGroup := by
  unfold readConditionGroup
  refine .bind reads_remaining fun _ => .bind (reads_takeUntil _ _ _) fun name => .ite (.get_bind' fun s => ?_) ?_
  · split
    · exact .fail
    · exact .bind (reads_checkBehind _) fun _ => .pure _
  · split
    · exact .fail
    · exact .first .fail (.bind (.modify fun s hs => ⟨hs.left, hs.flags⟩) fun _ =>
        .bind (reads_checkBehind _) fun _ => .pure _)

theorem reads_readName (terminator : Char) : Reads source rest (readName terminator) := by
  unfold readName
  exact .bind reads_remaining fun _ => .bind (reads_takeUntil _ _ _) fun _ => .ite (.pure _) .fail

theorem reads_readNamedRecall (flags : Flags) : Reads source rest (readNamedRecall flags) := by
  unfold readNamedRecall
  refine .bind (reads_readName _) fun name => .get_bind' fun s => ?_
  split
  · exact .fail
  · exact reads_readRecall _ _

theorem reads_readOpening (h : '(' ∈ source) (flags : Flags) : Reads source rest (readOpening flags) := by
  unfold readOpening
  refine .bind (reads_accept _) fun _ => .ite (.pure _) (.bind reads_next fun symbol => ?_)
  split
  · exact .bind (reads_accept _) fun _ => .ite (.bind (reads_readName _) fun _ => .pure _)
      (.bind (reads_accept _) fun _ => .ite (.bind (reads_readNamedRecall _) fun _ => .pure _) .fail)
  · exact .pure _
  · exact .bind reads_remaining fun _ => .bind (reads_skipComment _) fun _ => .pure _
  · exact .pure _
  · exact .pure _
  · refine .bind reads_next fun symbol => ?_
    split
    · exact .pure _
    · exact .pure _
    · exact .fail
  · exact .bind reads_readConditionGroup fun _ => .pure _
  · exact .pure _
  · refine .ite (.bind (reads_readFlags h _) fun flags => ?_) .fail
    cases flags with
    | none => exact .pure _
    | some flags => exact .pure _
  · exact .fail

theorem reads_lookPart (ahead negated : Bool) (contents : Part) :
    Reads source rest (lookPart ahead negated contents) := by
  unfold lookPart
  exact .ite (.pure _) (.ite (.pure _) (.first (.modify fun _ hs => ⟨hs.left, hs.flags⟩) (.pure _)))

end CodeReview.Pattern
