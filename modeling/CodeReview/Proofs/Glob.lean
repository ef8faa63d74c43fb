/-
What a glob stands for. A glob is read from left to right, always taking the first element that it may
begin with (`Begins`); each element stands for certain texts, and the glob for these texts put together
(`StandsFor`). The pattern of a glob matches just the paths that it stands for (`covers_read_iff`).
-/
import CodeReview.Glob
import CodeReview.Proofs.Pattern.Finding

namespace CodeReview

/-- The texts that an element of a glob stands for. -/
def GlobToken.StandsFor : GlobToken → List Char → Prop
  | .directories, part => part = [] ∨ ∃ names, part = names ++ ['/']
  | .below, part => part = [] ∨ ∃ name, part = '/' :: name
  | .anything, _ => True
  | .inName, part => '/' ∉ part
  | .oneInName, part => ∃ x, x ≠ '/' ∧ part = [x]
  | .char c, part => part = [c]

namespace Glob

open Pattern

variable {text rest part path : List Char} {token : GlobToken} {length : ℕ} {c after : Cursor}

/-! ## Reading -/

/-- What a glob begins with as it is written, and the rest of it. -/
inductive Begins : List Char → GlobToken → List Char → Prop
  | directories {rest : List Char} : Begins ('*' :: '*' :: '/' :: rest) .directories rest
  | below : Begins ['/', '*', '*'] .below []
  | anything {rest : List Char} (h : rest.head? ≠ some '/') : Begins ('*' :: '*' :: rest) .anything rest
  | inName {rest : List Char} (h : rest.head? ≠ some '*') : Begins ('*' :: rest) .inName rest
  | oneInName {rest : List Char} : Begins ('?' :: rest) .oneInName rest
  | char {c : Char} {rest : List Char} (h : c ∉ ['*', '?']) (hlast : c :: rest ≠ ['/', '*', '*']) :
    Begins (c :: rest) (.char c) rest

/-- The paths that a glob stands for, as it is written. -/
inductive StandsFor : List Char → List Char → Prop
  | nil : StandsFor [] []
  | cons {text rest part path : List Char} {token : GlobToken} (hbegins : Begins text token rest)
    (hpart : token.StandsFor part) (hpath : StandsFor rest path) : StandsFor text (part ++ path)

theorem read_of_begins (h : Begins text token rest) : read text = token :: read rest := by
  cases h with
  | directories => rw [read]
  | below => rw [read, read]
  | anything h =>
    refine read.eq_4 rest fun more hmore => h ?_
    rw [hmore, List.head?_cons]
  | inName h =>
    refine read.eq_5 rest (fun more hmore => h ?_) fun more hmore => h ?_
    · rw [hmore, List.head?_cons]
    · rw [hmore, List.head?_cons]
  | oneInName => rw [read]
  | @char c rest h hlast =>
    simp only [List.mem_cons, List.not_mem_nil, or_false, not_or] at h
    refine read.eq_7 c rest (fun _ hstar _ => h.1 hstar) (fun hslash hstars => hlast ?_)
      (fun _ hstar _ => h.1 hstar) h.1 h.2
    rw [hslash, hstars]

/-- A glob that is written with some characters begins with an element. -/
theorem exists_begins (h : text ≠ []) : ∃ token rest, Begins text token rest := by
  fun_cases read text with
  | case1 => exact absurd rfl h
  | case2 rest => exact ⟨_, _, .directories⟩
  | case3 => exact ⟨_, _, .below⟩
  | case4 rest hslash =>
    refine ⟨_, _, .anything fun hhead => ?_⟩
    obtain ⟨more, hmore⟩ := List.head?_eq_some_iff.1 hhead
    exact hslash more hmore
  | case5 rest _ hstar =>
    refine ⟨_, _, .inName fun hhead => ?_⟩
    obtain ⟨more, hmore⟩ := List.head?_eq_some_iff.1 hhead
    exact hstar more hmore
  | case6 rest => exact ⟨_, _, .oneInName⟩
  | case7 c rest _ hlast _ hstar hmark =>
    refine ⟨_, _, .char ?_ fun heq => ?_⟩
    · simp only [List.mem_cons, List.not_mem_nil, or_false, not_or]
      exact ⟨hstar, hmark⟩
    · obtain ⟨hc, hrest⟩ := List.cons.inj heq
      exact hlast hc hrest

theorem length_lt_of_begins (h : Begins text token rest) : rest.length < text.length := by
  cases h <;> simp only [List.length_cons, List.length_nil] <;> omega

/-! ## Matching -/

theorem pattern_cons (token : GlobToken) (glob : Glob) :
    pattern (token :: glob) = .seq (tokenPattern token) (pattern glob) := by
  cases glob <;> rfl

theorem mem_ends_optional_past {p : Pattern} {R : List Char → Prop}
    (h : after ∈ p.ends length c ↔ ∃ part rest, c.rest = part ++ rest ∧ R part ∧ after = c.past part rest) :
    after ∈ (optional p).ends length c ↔
      ∃ part rest, c.rest = part ++ rest ∧ (part = [] ∨ R part) ∧ after = c.past part rest := by
  rw [mem_ends_optional, h]
  constructor
  · rintro (⟨part, rest, hrest, hpart, rfl⟩ | rfl)
    · exact ⟨part, rest, hrest, .inr hpart, rfl⟩
    · exact ⟨[], _, rfl, .inl rfl, rfl⟩
  · rintro ⟨part, rest, hrest, rfl | hpart, rfl⟩
    · rw [List.nil_append] at hrest
      exact .inr (by rw [← hrest, Cursor.past_nil])
    · exact .inl ⟨part, rest, hrest, hpart, rfl⟩

section Slash

variable {test : CharTest}

theorem mem_ends_many_slash : after ∈ (Pattern.seq (many test) (.char (.only '/'))).ends length c ↔
    ∃ part rest, c.rest = part ++ rest ∧
      (∃ names, part = names ++ ['/'] ∧ ∀ x ∈ names, test.holds x = true) ∧ after = c.past part rest := by
  simp only [mem_ends_seq, mem_ends_many]
  constructor
  · rintro ⟨_, ⟨names, rest, hrest, hnames, rfl⟩, hslash⟩
    obtain ⟨left, hleft, rfl⟩ := mem_ends_only.1 hslash
    rw [Cursor.past_rest] at hleft
    refine ⟨names ++ ['/'], left, ?_, ⟨names, rfl, hnames⟩, Cursor.past_past names⟩
    rw [hrest, hleft, List.append_assoc, List.singleton_append]
  · rintro ⟨_, rest, hrest, ⟨names, rfl, hnames⟩, rfl⟩
    rw [List.append_assoc] at hrest
    exact ⟨_, ⟨names, _, hrest, hnames, rfl⟩, mem_ends_only.2 ⟨rest, rfl, (Cursor.past_past names).symm⟩⟩

theorem mem_ends_slash_many : after ∈ (Pattern.seq (.char (.only '/')) (many test)).ends length c ↔
    ∃ part rest, c.rest = part ++ rest ∧
      (∃ name, part = '/' :: name ∧ ∀ x ∈ name, test.holds x = true) ∧ after = c.past part rest := by
  simp only [mem_ends_seq, mem_ends_only]
  constructor
  · rintro ⟨_, ⟨rest, hrest, rfl⟩, hmany⟩
    obtain ⟨name, left, hleft, hname, rfl⟩ := mem_ends_many.1 hmany
    rw [Cursor.past_rest] at hleft
    refine ⟨'/' :: name, left, ?_, ⟨name, rfl, hname⟩, Cursor.past_past ['/']⟩
    rw [hrest, hleft, List.cons_append]
  · rintro ⟨_, rest, hrest, ⟨name, rfl, hname⟩, rfl⟩
    exact ⟨_, ⟨name ++ rest, hrest, rfl⟩,
      mem_ends_many.2 ⟨name, rest, rfl, hname, (Cursor.past_past ['/']).symm⟩⟩

end Slash

/-- The pattern of an element leads over the texts that the element stands for. -/
theorem mem_ends_tokenPattern (hline : '\n' ∉ c.rest) :
    after ∈ (tokenPattern token).ends length c ↔
      ∃ part rest, c.rest = part ++ rest ∧ token.StandsFor part ∧ after = c.past part rest := by
  have hinLine {part rest : List Char} (hrest : c.rest = part ++ rest) :
      ∀ x ∈ part, CharTest.inLine.holds x = true := fun x hx =>
    holds_inLine.2 fun heq => hline (hrest ▸ List.mem_append_left _ (heq ▸ hx))
  have hname {x : Char} : (CharTest.except "/").holds x = true ↔ x ≠ '/' :=
    holds_except.trans (not_congr List.mem_singleton)
  cases token with
  | directories =>
    refine (mem_ends_optional_past mem_ends_many_slash).trans (exists₂_congr fun part rest =>
      and_congr_right fun hrest => and_congr_left fun _ => or_congr_right (exists_congr fun names => ?_))
    refine and_iff_left_of_imp ?_
    rintro rfl x hx
    exact hinLine hrest x (List.mem_append_left _ hx)
  | below =>
    refine (mem_ends_optional_past mem_ends_slash_many).trans (exists₂_congr fun part rest =>
      and_congr_right fun hrest => and_congr_left fun _ => or_congr_right (exists_congr fun name => ?_))
    refine and_iff_left_of_imp ?_
    rintro rfl x hx
    exact hinLine hrest x (List.mem_cons_of_mem _ hx)
  | anything =>
    show after ∈ (many .inLine).ends length c ↔ _
    rw [mem_ends_many]
    exact exists₂_congr fun part rest => and_congr_right fun hrest =>
      and_congr_left fun _ => iff_of_true (hinLine hrest) trivial
  | inName =>
    show after ∈ (many (.except "/")).ends length c ↔ _
    have hpart {part : List Char} : (∀ x ∈ part, (CharTest.except "/").holds x = true) ↔ '/' ∉ part := by
      simp only [hname]
      exact List.forall_mem_ne'
    rw [mem_ends_many]
    simp only [hpart]
    rfl
  | oneInName =>
    show after ∈ (Pattern.char (.except "/")).ends length c ↔ _
    rw [mem_ends_char]
    simp only [hname]
    constructor
    · rintro ⟨x, rest, hrest, hx, rfl⟩
      exact ⟨[x], rest, hrest, ⟨x, hx, rfl⟩, rfl⟩
    · rintro ⟨_, rest, hrest, ⟨x, hx, rfl⟩, rfl⟩
      exact ⟨x, rest, hrest, hx, rfl⟩
  | char x =>
    show after ∈ (Pattern.char (.only x)).ends length c ↔ _
    rw [mem_ends_only]
    constructor
    · rintro ⟨rest, hrest, rfl⟩
      exact ⟨[x], rest, hrest, rfl, rfl⟩
    · rintro ⟨_, rest, hrest, rfl, rfl⟩
      exact ⟨rest, hrest, rfl⟩

/-- Nothing is left of a text where the pattern of a glob without elements leads on. -/
theorem mem_ends_pattern_nil : after ∈ (pattern []).ends length c ↔ c.rest = [] ∧ after = c := by
  show after ∈ (Pattern.anchor .textEnd).ends length c ↔ _
  rw [mem_ends_anchor]
  unfold Anchor.holds
  rw [List.isEmpty_iff]

/-! ## Globs without signs -/

/-- A glob without stars and question marks is read character by character. -/
theorem read_of_plain (h : ∀ c ∈ text, c ∉ ['*', '?']) : read text = text.map .char := by
  induction text with
  | nil => rw [read, List.map_nil]
  | cons c rest ih =>
    obtain ⟨hc, hrest⟩ := List.forall_mem_cons.1 h
    have hlast : c :: rest ≠ ['/', '*', '*'] := by
      intro heq
      obtain ⟨-, rfl⟩ := List.cons.inj heq
      exact hrest '*' (by decide) (by decide)
    rw [read_of_begins (.char hc hlast), ih hrest, List.map_cons]

theorem leads_char_iff : (∃ after, after ∈ (pattern (text.map .char)).ends length c) ↔ c.rest = text := by
  induction text generalizing c with
  | nil =>
    simp only [List.map_nil, mem_ends_pattern_nil]
    exact ⟨fun ⟨_, hrest, _⟩ => hrest, fun hrest => ⟨c, hrest, rfl⟩⟩
  | cons x text ih =>
    rw [List.map_cons, pattern_cons]
    simp only [mem_ends_seq]
    constructor
    · rintro ⟨after, mid, hmid, hafter⟩
      obtain ⟨rest, hrest, rfl⟩ := mem_ends_only.1 hmid
      rw [hrest, ← ih.1 ⟨after, hafter⟩, Cursor.past_rest]
    · intro hrest
      obtain ⟨after, hafter⟩ := (ih (c := c.past [x] text)).2 (Cursor.past_rest ..)
      exact ⟨after, _, mem_ends_only.2 ⟨text, hrest, rfl⟩, hafter⟩

/-- A glob without stars and question marks covers just the path that it spells, line breaks and all. -/
theorem covers_read_of_plain (h : ∀ c ∈ text, c ∉ ['*', '?']) :
    (read text).covers path = true ↔ path = text := by
  rw [read_of_plain h]
  exact matchStart_isSome_iff.trans leads_char_iff

/-! ## Paths -/

/-- The pattern of a glob leads on where what is left is a path that the glob stands for. -/
theorem leads_iff_standsFor (hline : '\n' ∉ c.rest) :
    (∃ after, after ∈ (pattern (read text)).ends length c) ↔ StandsFor text c.rest := by
  -- an element takes some characters of the glob, so the induction is on the number of those that are left
  induction hlength : text.length using Nat.strong_induction_on generalizing text c with
  | _ n ih =>
  have hstep {token : GlobToken} {rest : List Char} (hbegins : Begins text token rest) :
      (∃ after, after ∈ (pattern (read text)).ends length c) ↔
        ∃ part left, c.rest = part ++ left ∧ token.StandsFor part ∧ StandsFor rest left := by
    simp only [read_of_begins hbegins, pattern_cons, mem_ends_seq, mem_ends_tokenPattern hline]
    constructor
    · rintro ⟨after, _, ⟨part, left, hrest, hpart, rfl⟩, hafter⟩
      refine ⟨part, left, hrest, hpart, (ih rest.length ?_ ?_ rfl).1 ⟨after, hafter⟩⟩
      · exact hlength ▸ length_lt_of_begins hbegins
      · exact fun hmem => hline (hrest ▸ List.mem_append_right _ hmem)
    · rintro ⟨part, left, hrest, hpart, hleft⟩
      have hline' : '\n' ∉ (c.past part left).rest := fun hmem => hline (hrest ▸ List.mem_append_right _ hmem)
      obtain ⟨after, hafter⟩ := (ih rest.length (hlength ▸ length_lt_of_begins hbegins) hline' rfl).2 hleft
      exact ⟨after, _, ⟨part, left, hrest, hpart, rfl⟩, hafter⟩
  constructor
  · intro hleads
    by_cases htext : text = []
    · subst htext
      obtain ⟨after, hafter⟩ := hleads
      rw [(mem_ends_pattern_nil.1 hafter).1]
      exact .nil
    · obtain ⟨token, rest, hbegins⟩ := exists_begins htext
      obtain ⟨part, left, hrest, hpart, hleft⟩ := (hstep hbegins).1 hleads
      rw [hrest]
      exact .cons hbegins hpart hleft
  · intro hstands
    generalize hpath : c.rest = path at hstands
    cases hstands with
    | nil => exact ⟨c, mem_ends_pattern_nil.2 ⟨hpath, rfl⟩⟩
    | cons hbegins hpart hleft => exact (hstep hbegins).2 ⟨_, _, hpath, hpart, hleft⟩

/-- The pattern of a glob matches just the paths that the glob stands for. -/
theorem covers_read_iff (hline : '\n' ∉ path) : (read text).covers path = true ↔ StandsFor text path :=
  matchStart_isSome_iff.trans (leads_iff_standsFor hline)

/-- A glob with stars beside stars and slashes, and with signs that mean something in patterns. -/
theorem covers_read_of_stars : '\n' ∉ "src//a.b/x+/".toList ∧
    (read "src/***/?.b/**/x+/**".toList).covers "src//a.b/x+/".toList = true ∧
    StandsFor "src/***/?.b/**/x+/**".toList "src//a.b/x+/".toList := by
  have hline : '\n' ∉ "src//a.b/x+/".toList := by decide
  have hcovers : (read "src/***/?.b/**/x+/**".toList).covers "src//a.b/x+/".toList = true := by
    decide +kernel
  exact ⟨hline, hcovers, (covers_read_iff hline).1 hcovers⟩

end Glob

end CodeReview
