/-
The places that a pattern leads to. `ends` lists them in the order in which they are tried, and matching
takes the first that what follows accepts (`run_eq_findSome?`). So a pattern that is put together of
others is known by the places that these lead to, each of them further right by the characters that are
matched (`reaches_of_mem_ends`).
-/
import CodeReview.Pattern.Search
import Mathlib.Tactic

namespace CodeReview.Pattern

/-! ## Places further right -/

/-- The place after some characters, with what is left there. -/
def Cursor.past (c : Cursor) (part rest : List Char) : Cursor :=
  ⟨part.reverse ++ c.before, rest, c.position + part.length, c.captures⟩

/-- A place is further right, or the same, whatever is remembered there. -/
def Cursor.Reaches (c after : Cursor) : Prop :=
  ∃ part, c.rest = part ++ after.rest ∧ after.before = part.reverse ++ c.before ∧
    after.position = c.position + part.length

namespace Cursor

variable {c mid after : Cursor} {part more rest : List Char}

@[simp] theorem past_before : (c.past part rest).before = part.reverse ++ c.before := rfl

@[simp] theorem past_rest : (c.past part rest).rest = rest := rfl

@[simp] theorem past_position : (c.past part rest).position = c.position + part.length := rfl

@[simp] theorem past_captures : (c.past part rest).captures = c.captures := rfl

theorem past_past (part : List Char) {rest' : List Char} :
    (c.past part rest).past more rest' = c.past (part ++ more) rest' := by
  unfold past
  simp [Nat.add_assoc]

theorem past_nil : c.past [] c.rest = c := rfl

theorem Reaches.refl (c : Cursor) : c.Reaches c := ⟨[], rfl, rfl, rfl⟩

theorem Reaches.trans (h : c.Reaches mid) (h' : mid.Reaches after) : c.Reaches after := by
  obtain ⟨part, hrest, hbefore, hposition⟩ := h
  obtain ⟨more, hrest', hbefore', hposition'⟩ := h'
  refine ⟨part ++ more, ?_, ?_, ?_⟩
  · rw [hrest, hrest', List.append_assoc]
  · rw [hbefore', hbefore, List.reverse_append, List.append_assoc]
  · rw [hposition', hposition, List.length_append, Nat.add_assoc]

theorem Reaches.past (h : c.rest = part ++ rest) : c.Reaches (c.past part rest) :=
  ⟨part, h, rfl, rfl⟩

theorem Reaches.withCaptures (h : c.Reaches after) (captures : List (ℕ × List Char)) :
    c.Reaches { after with captures } := h

theorem reaches_forward (c : Cursor) : c.Reaches c.forward := by
  unfold forward
  split
  · exact .refl c
  · next x rest hrest => exact ⟨[x], by simpa using hrest, rfl, rfl⟩

end Cursor

/-! ## Repeated characters -/

section Characters

variable {test : CharTest} {least : ℕ} {most : Option ℕ} {c after : Cursor}
  {next : Cursor → Option Cursor}

/-- The place and those up to `extra` characters further left. -/
def backs : ℕ → Cursor → List Cursor
  | 0, c => [c]
  | extra + 1, c => c :: backs extra c.back

/-- The place and those further right over characters that pass the test. -/
def furthers (test : CharTest) (captures : List (ℕ × List Char)) :
    Option ℕ → List Char → ℕ → List Char → List Cursor
  | _, before, position, [] => [⟨before, [], position, captures⟩]
  | more, before, position, x :: rest =>
    ⟨before, x :: rest, position, captures⟩ ::
      if more != some 0 && test.holds x then
        furthers test captures (more.map (· - 1)) (x :: before) (position + 1) rest
      else []

/-- Where repeated characters lead. -/
def endsChars (test : CharTest) (least : ℕ) (most : Option ℕ) (kind : Repetition) (c : Cursor) :
    List Cursor :=
  match kind with
  | .greedy =>
    let (count, stop) := takeRun test most c.captures 0 c.before c.position c.rest
    if count < least then [] else backs (count - least) stop
  | .possessive =>
    let (count, stop) := takeRun test most c.captures 0 c.before c.position c.rest
    if count < least then [] else [stop]
  | .reluctant =>
    let (count, stop) := takeRun test (some least) c.captures 0 c.before c.position c.rest
    if count < least then []
    else furthers test c.captures (most.map (· - least)) stop.before stop.position stop.rest

theorem findSome?_cons_eq {c : Cursor} {more : List Cursor} :
    (c :: more).findSome? next = (next c).or (more.findSome? next) := by
  rw [List.findSome?_cons]
  cases next c <;> rfl

theorem giveBack_eq_findSome? (extra : ℕ) :
    giveBack next extra c = (backs extra c).findSome? next := by
  induction extra generalizing c with
  | zero =>
    unfold giveBack backs
    rw [findSome?_cons_eq]
    cases next c <;> rfl
  | succ extra ih =>
    unfold giveBack backs
    rw [findSome?_cons_eq, ih]
    cases next c <;> rfl

theorem takeMore_eq_findSome? {captures : List (ℕ × List Char)} {more : Option ℕ}
    {before rest : List Char} {position : ℕ} :
    takeMore test next captures more before position rest =
      (furthers test captures more before position rest).findSome? next := by
  induction rest generalizing more before position with
  | nil =>
    unfold takeMore furthers
    rw [findSome?_cons_eq]
    cases next ⟨before, [], position, captures⟩ <;> rfl
  | cons x rest ih =>
    unfold takeMore furthers
    rw [findSome?_cons_eq]
    cases next ⟨before, x :: rest, position, captures⟩ with
    | some found => rfl
    | none =>
      dsimp only
      split
      · exact ih
      · rfl

theorem runChars_eq_findSome? {kind : Repetition} :
    runChars test least most kind c next = (endsChars test least most kind c).findSome? next := by
  cases kind with
  | greedy =>
    unfold runChars endsChars
    dsimp only
    split
    · rfl
    · exact giveBack_eq_findSome? _
  | possessive =>
    unfold runChars endsChars
    dsimp only
    split
    · rfl
    · rw [findSome?_cons_eq]
      cases next _ <;> rfl
  | reluctant =>
    unfold runChars endsChars
    dsimp only
    split
    · rfl
    · exact takeMore_eq_findSome?

/-- A run over characters takes those that pass the test, until one fails it or there are enough. -/
theorem takeRun_spec (captures : List (ℕ × List Char)) {count : ℕ} (position : ℕ) (before rest : List Char)
    (hmost : ∀ m ∈ most, count ≤ m) :
    ∃ part left, rest = part ++ left ∧ (∀ x ∈ part, test.holds x = true) ∧
      (∀ m ∈ most, count + part.length ≤ m) ∧
      (∀ x more, left = x :: more → test.holds x = true → most = some (count + part.length)) ∧
      takeRun test most captures count before position rest =
        (count + part.length, ⟨part.reverse ++ before, left, position + part.length, captures⟩) := by
  induction rest generalizing count before position with
  | nil => exact ⟨[], [], rfl, nofun, hmost, nofun, rfl⟩
  | cons x rest ih =>
    unfold takeRun
    split
    · next h =>
      rw [Bool.and_eq_true, bne_iff_ne] at h
      have hmore : ∀ m ∈ most, count + 1 ≤ m := by
        intro m hm
        have hle := hmost m hm
        have hne : m ≠ count := fun heq => h.1 (by rw [Option.mem_def.1 hm, heq])
        omega
      obtain ⟨part, left, hrest, hpart, hcount, hstop, hrun⟩ :=
        @ih (count + 1) (position + 1) (x :: before) hmore
      refine ⟨x :: part, left, by rw [hrest]; rfl, List.forall_mem_cons.2 ⟨h.2, hpart⟩, ?_, ?_, ?_⟩
      · intro m hm
        have := hcount m hm
        rw [List.length_cons]
        omega
      · intro y more hleft hy
        rw [hstop y more hleft hy, List.length_cons]
        congr 1
        omega
      · rw [hrun, List.length_cons, List.reverse_cons, List.append_assoc]
        congr 1
        · omega
        · congr 1
          omega
    · next h =>
      refine ⟨[], x :: rest, rfl, nofun, hmost, fun y more hleft hy => ?_, rfl⟩
      obtain ⟨rfl, -⟩ := List.cons.inj hleft
      rw [hy, Bool.and_true, bne_iff_ne, not_not] at h
      exact h

/-- Going back from behind some characters leads to the places behind some of them. -/
theorem mem_backs_iff {part rest : List Char} {extra : ℕ} (h : extra ≤ part.length) :
    after ∈ backs extra (c.past part rest) ↔
      ∃ kept left, part = kept ++ left ∧ part.length ≤ kept.length + extra ∧
        after = c.past kept (left ++ rest) := by
  induction extra generalizing part rest with
  | zero =>
    unfold backs
    rw [List.mem_singleton]
    constructor
    · rintro rfl
      exact ⟨part, [], by simp, by simp, by simp⟩
    · rintro ⟨kept, left, rfl, hlength, rfl⟩
      have hleft : left = [] := by
        rw [← List.length_eq_zero_iff]
        rw [List.length_append] at hlength
        omega
      rw [hleft, List.append_nil, List.nil_append]
  | succ extra ih =>
    obtain ⟨short, x, rfl⟩ : ∃ short x, part = short ++ [x] := by
      have hne : part ≠ [] := by
        rintro rfl
        exact Nat.not_succ_le_zero _ h
      exact ⟨part.dropLast, part.getLast hne, (List.dropLast_append_getLast hne).symm⟩
    have hback : (c.past (short ++ [x]) rest).back = c.past short (x :: rest) := by
      unfold Cursor.past Cursor.back
      simp
    rw [List.length_append, List.length_singleton] at h
    unfold backs
    rw [List.mem_cons, hback, ih (by omega)]
    constructor
    · rintro (rfl | ⟨kept, left, rfl, hlength, rfl⟩)
      · exact ⟨short ++ [x], [], by simp, by omega, by simp⟩
      · refine ⟨kept, left ++ [x], by simp, ?_, by simp⟩
        rw [List.length_append, List.length_append, List.length_singleton]
        rw [List.length_append] at hlength
        omega
    · rintro ⟨kept, left, hpart, hlength, rfl⟩
      rcases List.eq_nil_or_concat left with rfl | ⟨init, y, rfl⟩
      · left
        rw [hpart, List.append_nil, List.nil_append]
      · right
        rw [List.concat_eq_append, ← List.append_assoc] at hpart
        obtain ⟨rfl, hlast⟩ := List.append_inj' hpart rfl
        obtain ⟨rfl, -⟩ := List.cons.inj hlast
        refine ⟨kept, init, rfl, ?_, by simp⟩
        simp only [List.length_append, List.length_singleton] at hlength ⊢
        omega

/-- Characters taken greedily are any that pass the test, if there are neither too few nor too many. -/
theorem mem_endsChars_greedy_iff : after ∈ endsChars test least most .greedy c ↔
    ∃ part rest, c.rest = part ++ rest ∧ (∀ x ∈ part, test.holds x = true) ∧ least ≤ part.length ∧
      (∀ m ∈ most, part.length ≤ m) ∧ after = c.past part rest := by
  obtain ⟨run, left, hrest, hrun, hmost, hstop, htake⟩ := takeRun_spec c.captures c.position c.before
    c.rest (fun m (_ : m ∈ most) => Nat.zero_le m)
  rw [Nat.zero_add] at hmost hstop htake
  unfold endsChars
  dsimp only
  rw [htake]
  -- no run of characters that pass the test goes on beyond the one that is taken
  have hlongest : ∀ part rest, c.rest = part ++ rest → (∀ x ∈ part, test.holds x = true) →
      (∀ m ∈ most, part.length ≤ m) → ∃ more, run = part ++ more ∧ rest = more ++ left := by
    intro part rest hsplit hpart hm
    rw [hrest] at hsplit
    rcases List.append_eq_append_iff.1 hsplit with ⟨more, rfl, hleft⟩ | ⟨more, rfl, rfl⟩
    · cases more with
      | nil => exact ⟨[], by simp, by simpa using hleft.symm⟩
      | cons x more =>
        have hx := hpart x (by simp)
        have hfull := hm _ (hstop x (more ++ rest) hleft hx)
        rw [List.length_append, List.length_cons] at hfull
        omega
    · exact ⟨more, rfl, rfl⟩
  split
  · next hfew =>
    refine iff_of_false nofun ?_
    rintro ⟨part, rest, hsplit, hpart, hleast, hm, -⟩
    obtain ⟨more, rfl, -⟩ := hlongest part rest hsplit hpart hm
    dsimp only at hfew
    rw [List.length_append] at hfew
    omega
  · next hfew =>
    dsimp only at hfew
    have hback : after ∈ backs (run.length - least) (c.past run left) ↔ _ :=
      mem_backs_iff (Nat.sub_le _ _)
    unfold Cursor.past at hback
    rw [hback]
    constructor
    · rintro ⟨kept, given, rfl, hlength, rfl⟩
      rw [List.length_append] at hlength hfew
      refine ⟨kept, given ++ left, by rw [hrest, List.append_assoc], ?_, by omega, ?_, rfl⟩
      · exact fun x hx => hrun x (List.mem_append_left _ hx)
      · intro m hm
        have := hmost m hm
        rw [List.length_append] at this
        omega
    · rintro ⟨part, rest, hsplit, hpart, hleast, hm, rfl⟩
      obtain ⟨more, rfl, rfl⟩ := hlongest part rest hsplit hpart hm
      refine ⟨part, more, rfl, ?_, rfl⟩
      rw [List.length_append]
      omega

theorem past_of_mem_furthers {captures : List (ℕ × List Char)} {more : Option ℕ}
    {before rest : List Char} {position : ℕ}
    (h : after ∈ furthers test captures more before position rest) :
    ∃ part left, rest = part ++ left ∧
      after = (⟨before, rest, position, captures⟩ : Cursor).past part left := by
  induction rest generalizing more before position with
  | nil => exact ⟨[], [], rfl, List.mem_singleton.1 h⟩
  | cons x rest ih =>
    unfold furthers at h
    rcases List.mem_cons.1 h with rfl | h
    · exact ⟨[], x :: rest, rfl, rfl⟩
    · split at h
      · obtain ⟨part, left, hrest, rfl⟩ := ih h
        exact ⟨x :: part, left, congrArg (x :: ·) hrest,
          Cursor.past_past (c := ⟨before, x :: rest, position, captures⟩) [x]⟩
      · cases h

/-- Repeated characters lead to places behind some of the characters that are left. -/
theorem past_of_mem_endsChars {kind : Repetition} (h : after ∈ endsChars test least most kind c) :
    ∃ part rest, c.rest = part ++ rest ∧ after = c.past part rest := by
  have hrun (most : Option ℕ) : ∃ part left, c.rest = part ++ left ∧
      (takeRun test most c.captures 0 c.before c.position c.rest).2 = c.past part left := by
    obtain ⟨part, left, hrest, -, -, -, htake⟩ := takeRun_spec c.captures c.position c.before c.rest
      (fun m (_ : m ∈ most) => Nat.zero_le m)
    exact ⟨part, left, hrest, congrArg Prod.snd htake⟩
  cases kind with
  | greedy =>
    obtain ⟨part, rest, hrest, -, -, -, hafter⟩ := mem_endsChars_greedy_iff.1 h
    exact ⟨part, rest, hrest, hafter⟩
  | possessive =>
    obtain ⟨part, left, hrest, hstop⟩ := hrun most
    unfold endsChars at h
    dsimp only at h
    split at h
    · cases h
    · exact ⟨part, left, hrest, (List.mem_singleton.1 h).trans hstop⟩
  | reluctant =>
    obtain ⟨part, left, hrest, hstop⟩ := hrun (some least)
    unfold endsChars at h
    dsimp only at h
    split at h
    · cases h
    · rw [hstop] at h
      obtain ⟨more, left', hleft, rfl⟩ := past_of_mem_furthers h
      refine ⟨part ++ more, left', ?_, Cursor.past_past part⟩
      rw [hrest, List.append_assoc, ← hleft]
      rfl

end Characters

/-! ## Repeated patterns -/

/-- Where repetitions lead, as many as there are and then fewer. -/
def endsGreedy (body : Cursor → List Cursor) (least : ℕ) (most : Option ℕ) :
    ℕ → ℕ → Option ℕ → Cursor → List Cursor
  | 0, _, _, _ => []
  | fuel + 1, count, last, c =>
    if count < least then (body c).flatMap (endsGreedy body least most fuel (count + 1) last)
    else if most != some count && last != some c.position then
      (body c).flatMap (endsGreedy body least most fuel (count + 1) (some c.position)) ++ [c]
    else [c]

/-- Where repetitions lead, as few as will do and then more. -/
def endsReluctant (body : Cursor → List Cursor) (least : ℕ) (most : Option ℕ) :
    ℕ → ℕ → Option ℕ → Cursor → List Cursor
  | 0, _, _, _ => []
  | fuel + 1, count, last, c =>
    if count < least then (body c).flatMap (endsReluctant body least most fuel (count + 1) last)
    else
      c :: if most != some count && last != some c.position then
          (body c).flatMap (endsReluctant body least most fuel (count + 1) (some c.position))
        else []

section Repeated

variable {body : Runner} {leads : Cursor → List Cursor} {least : ℕ} {most : Option ℕ}
  {next : Cursor → Option Cursor} {c after : Cursor}

theorem findSome?_flatMap {items : List Cursor} {f : Cursor → List Cursor} :
    (items.flatMap f).findSome? next = items.findSome? fun c => (f c).findSome? next := by
  induction items with
  | nil => rfl
  | cons c items ih =>
    rw [List.flatMap_cons, List.findSome?_append, ih, List.findSome?_cons]
    cases (f c).findSome? next <;> rfl

theorem findSome?_singleton : [c].findSome? next = next c := by
  rw [findSome?_cons_eq]
  cases next c <;> rfl

variable (hbody : ∀ c next, body c next = (leads c).findSome? next)

include hbody

theorem runGreedy_eq_findSome? (fuel count : ℕ) (last : Option ℕ) :
    runGreedy body least most next fuel count last c =
      (endsGreedy leads least most fuel count last c).findSome? next := by
  induction fuel generalizing count last c with
  | zero => rfl
  | succ fuel ih =>
    have hmore (count : ℕ) (last : Option ℕ) : runGreedy body least most next fuel count last =
        fun c => (endsGreedy leads least most fuel count last c).findSome? next :=
      funext fun c => ih count last
    unfold runGreedy endsGreedy
    split
    · rw [hbody, findSome?_flatMap, hmore]
    · split
      · rw [List.findSome?_append, hbody, findSome?_flatMap, findSome?_singleton, hmore]
        cases (leads c).findSome? _ <;> rfl
      · exact findSome?_singleton.symm

theorem runReluctant_eq_findSome? (fuel count : ℕ) (last : Option ℕ) :
    runReluctant body least most next fuel count last c =
      (endsReluctant leads least most fuel count last c).findSome? next := by
  induction fuel generalizing count last c with
  | zero => rfl
  | succ fuel ih =>
    have hmore (count : ℕ) (last : Option ℕ) : runReluctant body least most next fuel count last =
        fun c => (endsReluctant leads least most fuel count last c).findSome? next :=
      funext fun c => ih count last
    unfold runReluctant endsReluctant
    split
    · rw [hbody, findSome?_flatMap, hmore]
    · rw [findSome?_cons_eq]
      cases next c with
      | some found => rfl
      | none =>
        rw [Option.none_or]
        dsimp only
        split
        · rw [hbody, findSome?_flatMap, hmore]
        · rfl

omit hbody

/-! What one repetition keeps is kept by all of them. -/

section Keeping

variable {R : Cursor → Prop} (hstep : ∀ c, R c → ∀ after ∈ leads c, R after)

include hstep

theorem keeps_of_mem_endsGreedy {fuel count : ℕ} {last : Option ℕ} (hc : R c)
    (h : after ∈ endsGreedy leads least most fuel count last c) : R after := by
  induction fuel generalizing count last c with
  | zero => cases h
  | succ fuel ih =>
    unfold endsGreedy at h
    split at h
    · obtain ⟨mid, hmid, h⟩ := List.mem_flatMap.1 h
      exact ih (hstep c hc mid hmid) h
    · split at h
      · rcases List.mem_append.1 h with h | h
        · obtain ⟨mid, hmid, h⟩ := List.mem_flatMap.1 h
          exact ih (hstep c hc mid hmid) h
        · exact List.mem_singleton.1 h ▸ hc
      · exact List.mem_singleton.1 h ▸ hc

theorem keeps_of_mem_endsReluctant {fuel count : ℕ} {last : Option ℕ} (hc : R c)
    (h : after ∈ endsReluctant leads least most fuel count last c) : R after := by
  induction fuel generalizing count last c with
  | zero => cases h
  | succ fuel ih =>
    unfold endsReluctant at h
    split at h
    · obtain ⟨mid, hmid, h⟩ := List.mem_flatMap.1 h
      exact ih (hstep c hc mid hmid) h
    · rcases List.mem_cons.1 h with rfl | h
      · exact hc
      · split at h
        · obtain ⟨mid, hmid, h⟩ := List.mem_flatMap.1 h
          exact ih (hstep c hc mid hmid) h
        · cases h

theorem keeps_of_runPossessive (hsome : ∀ c after, body c some = some after → after ∈ leads c)
    {fuel count : ℕ} {last : Option ℕ} (hc : R c)
    (h : runPossessive body least most fuel count last c = some after) : R after := by
  induction fuel generalizing count last c with
  | zero => cases h
  | succ fuel ih =>
    unfold runPossessive at h
    split at h
    · split at h
      · next mid hmid => exact ih (hstep c hc mid (hsome c mid hmid)) h
      · cases h
    · split at h
      · split at h
        · next mid hmid => exact ih (hstep c hc mid (hsome c mid hmid)) h
        · exact Option.some.inj h ▸ hc
      · exact Option.some.inj h ▸ hc

end Keeping

end Repeated

/-! ## Patterns -/

/-- The place with what is remembered at the first of some others, or itself if there is none; nothing
where that is not what is asked for. -/
def lookedAround (negated : Bool) (c : Cursor) (seen : Option Cursor) : List Cursor :=
  match seen with
  | some after => if negated then [] else [{ c with captures := after.captures }]
  | none => if negated then [c] else []

/-- The places that a pattern leads to, in the order in which they are tried. -/
def ends (length : ℕ) : Pattern → Cursor → List Cursor
  | .empty, c => [c]
  | .never, _ => []
  | .char test, c =>
    match c.rest with
    | [] => []
    | x :: rest => if test.holds x then [c.past [x] rest] else []
  | .seq p q, c => (p.ends length c).flatMap (q.ends length)
  | .alt p q, c => p.ends length c ++ q.ends length c
  | .chars test least most kind, c => endsChars test least most kind c
  | .repeated p least most .greedy, c =>
    endsGreedy (p.ends length) least most (least + length + 3) 0 none c
  | .repeated p least most .reluctant, c =>
    endsReluctant (p.ends length) least most (least + length + 3) 0 none c
  | .repeated p least most .possessive, c =>
    (runPossessive (p.run length) least most (least + length + 3) 0 none c).toList
  | .capture index p, c =>
    (p.ends length c).map fun after => after.remember index (after.position - c.position)
  | .atomic p, c => (p.ends length c).head?.toList
  | .ahead negated p, c => lookedAround negated c (p.ends length c).head?
  | .behind negated width p, c =>
    lookedAround negated c ((c.backBy width).bind fun start => (p.ends length start).head?)
  | .recall index letters, c =>
    ((c.captured? index).bind fun text => runText letters text c).toList
  | .ifCaptured index yes no, c =>
    match c.captured? index with
    | some _ => yes.ends length c
    | none => no.ends length c
  | .anchor place, c => if Anchor.holds c place then [c] else []

theorem findSome?_some (items : List Cursor) : items.findSome? some = items.head? := by
  cases items <;> rfl

theorem findSome?_toList {found : Option Cursor} {next : Cursor → Option Cursor} :
    found.toList.findSome? next = match found with
      | some after => next after
      | none => none := by
  cases found with
  | none => rfl
  | some after => exact findSome?_singleton

theorem findSome?_lookedAround {negated : Bool} {c : Cursor} {seen : Option Cursor}
    {next : Cursor → Option Cursor} : (lookedAround negated c seen).findSome? next = match seen with
      | some after => if negated then none else next { c with captures := after.captures }
      | none => if negated then next c else none := by
  unfold lookedAround
  cases seen with
  | some after =>
    dsimp only
    split
    · rfl
    · exact findSome?_singleton
  | none =>
    dsimp only
    split
    · exact findSome?_singleton
    · rfl

/-- Matching takes the first place that the pattern leads to and that what follows accepts. -/
theorem run_eq_findSome? (length : ℕ) (p : Pattern) (c : Cursor) (next : Cursor → Option Cursor) :
    p.run length c next = (p.ends length c).findSome? next := by
  induction p generalizing c next with
  | empty => exact findSome?_singleton.symm
  | never => rfl
  | char test =>
    unfold run ends
    cases c.rest with
    | nil => rfl
    | cons x rest =>
      dsimp only
      split
      · exact findSome?_singleton.symm
      · rfl
  | seq p q ihp ihq =>
    unfold run ends
    rw [findSome?_flatMap, ihp]
    simp only [ihq]
  | alt p q ihp ihq =>
    unfold run ends
    rw [List.findSome?_append, ihp, ihq]
    cases (p.ends length c).findSome? next <;> rfl
  | chars test least most kind => exact runChars_eq_findSome?
  | repeated p least most kind ih =>
    cases kind with
    | greedy => exact runGreedy_eq_findSome? ih _ _ _
    | reluctant => exact runReluctant_eq_findSome? ih _ _ _
    | possessive =>
      unfold run ends
      exact findSome?_toList.symm
  | capture index p ih =>
    unfold run ends
    rw [ih, List.findSome?_map]
    rfl
  | atomic p ih =>
    unfold run ends
    rw [ih, findSome?_some]
    exact findSome?_toList.symm
  | ahead negated p ih =>
    unfold run ends
    rw [ih, findSome?_some]
    exact findSome?_lookedAround.symm
  | behind negated width p ih =>
    unfold run ends
    simp only [ih, findSome?_some]
    exact findSome?_lookedAround.symm
  | «recall» index letters =>
    unfold run ends
    exact findSome?_toList.symm
  | ifCaptured index yes no ihyes ihno =>
    unfold run ends
    cases c.captured? index with
    | some text => exact ihyes c next
    | none => exact ihno c next
  | anchor place =>
    unfold run ends
    split
    · exact findSome?_singleton.symm
    · rfl

theorem run_some (length : ℕ) (p : Pattern) (c : Cursor) :
    p.run length c some = (p.ends length c).head? := by
  rw [run_eq_findSome?, findSome?_some]

theorem mem_ends_of_run_some {length : ℕ} {p : Pattern} {c after : Cursor}
    (h : p.run length c some = some after) : after ∈ p.ends length c := by
  rw [run_some] at h
  exact List.mem_of_head? h

theorem keeps_of_mem_ends_repeated {R : Cursor → Prop} {length least : ℕ} {most : Option ℕ}
    {kind : Repetition} {p : Pattern} {c after : Cursor}
    (hstep : ∀ c, R c → ∀ after ∈ p.ends length c, R after) (hc : R c)
    (h : after ∈ (Pattern.repeated p least most kind).ends length c) : R after := by
  cases kind with
  | greedy => exact keeps_of_mem_endsGreedy hstep hc h
  | reluctant => exact keeps_of_mem_endsReluctant hstep hc h
  | possessive =>
    exact keeps_of_runPossessive hstep (fun _ _ => mem_ends_of_run_some) hc (Option.mem_toList.1 h)

theorem past_of_runText {letters : Letters} {text : List Char} {c after : Cursor}
    (h : runText letters text c = some after) :
    ∃ part rest, c.rest = part ++ rest ∧ after = c.past part rest := by
  induction text generalizing c with
  | nil => exact ⟨[], c.rest, rfl, (Option.some.inj h).symm⟩
  | cons x text ih =>
    unfold runText at h
    split at h
    · cases h
    · next y left hrest =>
      split at h
      · have hforward : c.forward = c.past [y] left := by
          unfold Cursor.forward
          rw [hrest]
          rfl
        rw [hforward] at h
        obtain ⟨part, rest, hleft, rfl⟩ := ih h
        exact ⟨y :: part, rest, hrest.trans (congrArg (y :: ·) hleft), Cursor.past_past [y]⟩
      · cases h

/-- Looking around stays in its place and may remember what was seen. -/
theorem eq_or_eq_of_mem_lookedAround {negated : Bool} {c after : Cursor} {seen : Option Cursor}
    (h : after ∈ lookedAround negated c seen) :
    after = c ∨ ∃ stop ∈ seen, after = { c with captures := stop.captures } := by
  unfold lookedAround at h
  cases seen with
  | some stop =>
    dsimp only at h
    split at h
    · cases h
    · exact .inr ⟨stop, rfl, List.mem_singleton.1 h⟩
  | none =>
    dsimp only at h
    split at h
    · exact .inl (List.mem_singleton.1 h)
    · cases h

theorem reaches_of_mem_lookedAround {negated : Bool} {c after : Cursor} {seen : Option Cursor}
    (h : after ∈ lookedAround negated c seen) : c.Reaches after := by
  rcases eq_or_eq_of_mem_lookedAround h with rfl | ⟨stop, -, rfl⟩
  · exact .refl _
  · exact .withCaptures (.refl c) _

/-- A pattern leads to places further right only. -/
theorem reaches_of_mem_ends {length : ℕ} {p : Pattern} {c after : Cursor}
    (h : after ∈ p.ends length c) : c.Reaches after := by
  induction p generalizing c after with
  | empty =>
    obtain rfl := List.mem_singleton.1 h
    exact .refl _
  | never => cases h
  | char test =>
    unfold ends at h
    split at h
    · cases h
    · next x rest hrest =>
      split at h
      · obtain rfl := List.mem_singleton.1 h
        exact .past hrest
      · cases h
  | seq p q ihp ihq =>
    obtain ⟨mid, hmid, hafter⟩ := List.mem_flatMap.1 h
    exact (ihp hmid).trans (ihq hafter)
  | alt p q ihp ihq =>
    rcases List.mem_append.1 h with h | h
    · exact ihp h
    · exact ihq h
  | chars test least most kind =>
    obtain ⟨part, rest, hrest, rfl⟩ := past_of_mem_endsChars h
    exact .past hrest
  | repeated p least most kind ih =>
    exact keeps_of_mem_ends_repeated (R := c.Reaches) (fun _ hmid _ h => hmid.trans (ih h)) (.refl c) h
  | capture index p ih =>
    obtain ⟨stop, hstop, rfl⟩ := List.mem_map.1 h
    exact .withCaptures (ih hstop) _
  | atomic p ih => exact ih (List.mem_of_head? (Option.mem_toList.1 h))
  | ahead negated p ih => exact reaches_of_mem_lookedAround h
  | behind negated width p ih => exact reaches_of_mem_lookedAround h
  | «recall» index letters =>
    obtain ⟨text, -, hrun⟩ := Option.bind_eq_some_iff.1 (Option.mem_toList.1 h)
    obtain ⟨part, rest, hrest, rfl⟩ := past_of_runText hrun
    exact .past hrest
  | ifCaptured index yes no ihyes ihno =>
    unfold ends at h
    split at h
    · exact ihyes h
    · exact ihno h
  | anchor place =>
    unfold ends at h
    split at h
    · obtain rfl := List.mem_singleton.1 h
      exact .refl _
    · cases h

end CodeReview.Pattern
