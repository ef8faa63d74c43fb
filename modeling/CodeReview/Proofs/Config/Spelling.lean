/-
How a path is spelled. Two paths that lead to the same place below the root are named the same inside it, by
the names on the way there with slashes between them, and so the same patterns leave them out, unless the first
of these names begins with two points: then the path counts as one outside the root and keeps the name that it
has, and for each spelling there is another that some pattern tells from it (`ignoresSpelling_iff`).
-/
import CodeReview.Proofs.Config.Exclusion
import CodeReview.Proofs.Disk.Frame

namespace CodeReview

/-! ## Beginnings -/

namespace Text

variable {front rest text : List Char}

theorem dropFront?_eq_some_iff : dropFront? front text = some rest ↔ text = front ++ rest := by
  induction front generalizing text with
  | nil => exact Option.some_inj
  | cons c front ih =>
    cases text with
    | nil => exact iff_of_false nofun nofun
    | cons d text =>
      rw [dropFront?, List.cons_append, List.cons.injEq]
      split_ifs with hc
      · rw [ih, and_iff_right hc.symm]
      · exact iff_of_false nofun fun h => hc h.1.symm

end Text

namespace Path

variable {cwd root file name piece path : String} {here names pieces blanks : List String}
  {front rest chars : List Char} {n : ℕ}

/-! ## Following a path -/

theorem follow_append (here first second : List String) :
    follow here (first ++ second) = follow (follow here first) second := by
  induction first generalizing here with
  | nil => rfl
  | cons piece first ih =>
    rw [List.cons_append, follow, follow]
    split_ifs
    · exact ih here
    · exact ih here.dropLast
    · exact ih (here ++ [piece])

/-- Pieces that lead nowhere may follow. -/
theorem follow_append_blanks (hblanks : ∀ b ∈ blanks, b = "" ∨ b = ".") (here pieces : List String) :
    follow here (pieces ++ blanks) = follow here pieces := by
  have hstays := follow_blanks hblanks (follow here pieces) []
  rw [List.append_nil] at hstays
  rw [follow_append, hstays]
  rfl

/-- A place is made of names that were there before and of pieces that are no points. -/
theorem mem_follow (h : name ∈ follow here pieces) : name ∈ here ∨ name ∈ pieces ∧ name ≠ "." := by
  induction pieces generalizing here with
  | nil => exact .inl h
  | cons piece pieces ih =>
    have hlater (hmem : name ∈ pieces ∧ name ≠ ".") : name ∈ piece :: pieces ∧ name ≠ "." :=
      ⟨List.mem_cons_of_mem _ hmem.1, hmem.2⟩
    rw [follow] at h
    split_ifs at h with hblank hup
    · exact (ih h).imp_right hlater
    · exact (ih h).imp List.mem_of_mem_dropLast hlater
    · rcases ih h with hmem | hmem
      · rw [List.mem_append, List.mem_singleton] at hmem
        refine hmem.imp_right ?_
        rintro rfl
        simp only [Bool.or_eq_true, decide_eq_true_eq, not_or] at hblank
        exact ⟨List.mem_cons_self .., hblank.2⟩
      · exact .inr (hlater hmem)

/-- The names of a place have no slash in them, and none is a point. -/
theorem isName_of_mem_resolve (h : name ∈ resolve cwd path) : '/' ∉ name.toList ∧ name ≠ "." := by
  have hstep {here : List String} {path : String} (hhere : ∀ n ∈ here, '/' ∉ n.toList ∧ n ≠ ".") :
      ∀ n ∈ follow here (Path.pieces path), '/' ∉ n.toList ∧ n ≠ "." := by
    intro n hn
    rcases mem_follow hn with hmem | ⟨hmem, hpoint⟩
    · exact hhere n hmem
    · exact ⟨Text.notMem_of_mem_splitOnChar (mem_pieces_iff.1 hmem), hpoint⟩
  unfold resolve at h
  split_ifs at h
  · exact hstep (List.forall_mem_nil _) name h
  · exact hstep (hstep (List.forall_mem_nil _)) name h

/-- The way from a directory to a place below it. -/
theorem wayTo_append (base names : List String) : wayTo base (base ++ names) = names := by
  induction base with
  | nil => cases names <;> rfl
  | cons part base ih => rw [List.cons_append, wayTo, if_pos rfl, ih]

/-! ## Naming a place -/

/-- A path as it is named: backslashes are slashes, and a point and a slash in front are left away. -/
def tidy (path : List Char) : List Char :=
  (Text.dropFront? ['.', '/'] (withSlashes path)).getD (withSlashes path)

theorem withSlashes_eq_self (h : '\\' ∉ front) : withSlashes front = front := by
  unfold withSlashes
  refine (List.map_congr_left (g := id) fun c hc => if_neg ?_).trans (List.map_id _)
  rintro rfl
  exact h hc

theorem length_tidy_le (path : List Char) : (tidy path).length ≤ path.length := by
  have hlength : (withSlashes path).length = path.length := List.length_map _
  unfold tidy
  cases hdrop : Text.dropFront? ['.', '/'] (withSlashes path) with
  | none => exact hlength.le
  | some rest =>
    rw [Text.dropFront?_eq_some_iff.1 hdrop, List.length_append] at hlength
    rw [Option.getD_some]
    omega

/-- Behind the first name there is nothing or a slash. -/
theorem toList_intercalate_cons (name : String) (names : List String) :
    ∃ rest, ("/".intercalate (name :: names)).toList = name.toList ++ rest ∧ ∀ c ∈ rest.head?, c = '/' := by
  rw [String.toList_intercalate, List.map_cons]
  cases names with
  | nil => exact ⟨[], by simp, nofun⟩
  | cons next names =>
    refine ⟨'/' :: ['/'].intercalate ((next :: names).map String.toList), ?_, by simp⟩
    rw [List.map_cons, List.intercalate_cons_cons, List.append_assoc]
    rfl

theorem mem_intercalate {c : Char} (h : c ∈ ("/".intercalate names).toList) :
    c = '/' ∨ ∃ n ∈ names, c ∈ n.toList := by
  rw [String.toList_intercalate] at h
  induction names with
  | nil => cases h
  | cons name names ih =>
    cases names with
    | nil =>
      rw [List.map_singleton, List.intercalate_singleton] at h
      exact .inr ⟨name, List.mem_singleton_self _, h⟩
    | cons next names =>
      rw [List.map_cons, List.map_cons, List.intercalate_cons_cons, List.append_assoc, List.mem_append,
        List.mem_append] at h
      rcases h with h | h | h
      · exact .inr ⟨name, List.mem_cons_self .., h⟩
      · exact .inl (List.mem_singleton.1 h)
      · exact (ih h).imp_right fun ⟨n, hn, hc⟩ => ⟨n, List.mem_cons_of_mem _ hn, hc⟩

/-- Two signs that are no slashes stand at the front if they stand at the front of the first name. -/
theorem points_prefix_iff (hrest : ∀ c ∈ rest.head?, c = '/') :
    ['.', '.'] <+: front ++ rest ↔ ['.', '.'] <+: front := by
  refine ⟨fun h => ?_, fun h => h.trans (List.prefix_append front rest)⟩
  rcases front with _ | ⟨c, _ | ⟨d, front⟩⟩
  · rcases rest with _ | ⟨x, rest⟩
    · exact h
    · cases hrest x rfl
      exact absurd (List.cons_prefix_cons.1 h).1 (by decide)
  · rcases rest with _ | ⟨x, rest⟩
    · exact h
    · cases hrest x rfl
      exact absurd (List.cons_prefix_cons.1 (List.cons_prefix_cons.1 h).2).1 (by decide)
  · simp only [List.cons_append, List.cons_prefix_cons] at h ⊢
    exact ⟨h.1, h.2.1, List.nil_prefix⟩

/-- A place below the root is named by the way there, unless the way begins with two points. -/
theorem relative_of_below (h : resolve cwd file = resolve cwd root ++ name :: names) :
    relative cwd file root = String.ofList (tidy
      (if ['.', '.'] <+: name.toList then file else "/".intercalate (name :: names)).toList) := by
  obtain ⟨rest, hinside, hrest⟩ := toList_intercalate_cons name names
  have hpoints : Text.startsWith ("/".intercalate (name :: names)).toList ['.', '.'] =
      decide (['.', '.'] <+: name.toList) := by
    rw [Bool.eq_iff_iff, Text.startsWith_iff, hinside, points_prefix_iff hrest, decide_eq_true_eq]
  unfold relative tidy
  rw [h, wayTo_append]
  simp only [List.isEmpty_cons, Bool.false_eq_true, if_false, hpoints, decide_eq_true_eq]
  generalize Text.dropFront? _ _ = dropped
  cases dropped <;> rfl

/-- Names without backslashes, the first of them no point, are written as they are. -/
theorem tidy_intercalate (hname : '/' ∉ name.toList) (hpoint : name ≠ ".")
    (hbackslash : ∀ n ∈ name :: names, '\\' ∉ n.toList) :
    tidy ("/".intercalate (name :: names)).toList = ("/".intercalate (name :: names)).toList := by
  obtain ⟨rest, hinside, hrest⟩ := toList_intercalate_cons name names
  have hsame : withSlashes ("/".intercalate (name :: names)).toList =
      ("/".intercalate (name :: names)).toList := by
    refine withSlashes_eq_self fun hmem => ?_
    rcases mem_intercalate hmem with heq | ⟨n, hn, hmem⟩
    · exact absurd heq (by decide)
    · exact hbackslash n hn hmem
  unfold tidy
  rw [hsame]
  cases hdrop : Text.dropFront? ['.', '/'] ("/".intercalate (name :: names)).toList with
  | none => rfl
  | some left =>
    -- a first name in front of which something is left away is a point
    rw [Text.dropFront?_eq_some_iff, hinside] at hdrop
    exfalso
    rcases hchars : name.toList with _ | ⟨c, _ | ⟨d, chars⟩⟩
    · rw [hchars, List.nil_append] at hdrop
      rw [hdrop] at hrest
      exact absurd (hrest '.' rfl) (by decide)
    · rw [hchars] at hdrop
      obtain ⟨rfl, -⟩ := List.cons.inj hdrop
      exact hpoint (String.toList_injective hchars)
    · rw [hchars] at hdrop hname
      obtain ⟨-, hdrop⟩ := List.cons.inj hdrop
      obtain ⟨rfl, -⟩ := List.cons.inj hdrop
      exact hname (by simp)

/-! ## A longer way to the same place -/

/-- Slashes, a point and a slash. -/
def detour (n : ℕ) : List Char := List.replicate n '/' ++ ['.', '/']

/-- The path with a detour at its end. -/
def withDetour (n : ℕ) (file : String) : String :=
  String.ofList ((if file = "" then ['.'] else file.toList) ++ '/' :: detour n)

theorem mem_detour {c : Char} (h : c ∈ detour n) : c = '/' ∨ c = '.' := by
  rcases List.mem_append.1 h with h | h
  · exact .inl (List.eq_of_mem_replicate h)
  · simpa [or_comm] using h

/-- A detour leads nowhere. -/
theorem resolve_withDetour (n : ℕ) (cwd file : String) :
    resolve cwd (withDetour n file) = resolve cwd file := by
  have hblanks : ∀ b ∈ (Text.splitOnChar '/' (detour n)).map String.ofList, b = "" ∨ b = "." := by
    unfold detour
    rw [Text.splitOnChar_replicate, List.map_append, List.map_replicate]
    intro b hb
    rcases List.mem_append.1 hb with hb | hb
    · exact .inl (List.eq_of_mem_replicate hb)
    · have hends : b ∈ [".", ""] := hb
      simpa [or_comm] using hends
  have hfollow (here : List String) :
      follow here (pieces (withDetour n file)) = follow here (pieces file) := by
    unfold pieces withDetour
    rw [String.toList_ofList, Text.splitOnChar_append, List.map_append, follow_append_blanks hblanks]
    split_ifs with hfile
    · subst hfile
      rfl
    · rfl
  have hstart : (withDetour n file).startsWith "/" = file.startsWith "/" := by
    rw [Bool.eq_iff_iff, String.startsWith_string_iff, String.startsWith_string_iff]
    unfold withDetour
    rw [String.toList_ofList]
    split_ifs with hfile
    · subst hfile
      exact iff_of_false (by simp) (by simp)
    · obtain ⟨c, chars, hchars⟩ := List.exists_cons_of_ne_nil (mt String.toList_eq_nil_iff.1 hfile)
      rw [hchars]
      simp
  unfold resolve
  rw [hstart, hfollow, hfollow]

theorem tidy_append_detour (front : List Char) (n : ℕ) :
    tidy (front ++ '/' :: detour n) = detour n ∨
      ∃ rest, tidy (front ++ '/' :: detour n) = rest ++ '/' :: detour n := by
  have hsame : withSlashes (front ++ '/' :: detour n) = withSlashes front ++ '/' :: detour n := by
    have hdetour : '\\' ∉ '/' :: detour n := by
      intro h
      rcases List.mem_cons.1 h with h | h
      · exact absurd h (by decide)
      · exact (mem_detour h).elim (by decide) (by decide)
    conv_rhs => rw [← withSlashes_eq_self hdetour]
    exact List.map_append
  unfold tidy
  rw [hsame]
  generalize withSlashes front = front
  cases hdrop : Text.dropFront? ['.', '/'] (front ++ '/' :: detour n) with
  | none => exact .inr ⟨front, rfl⟩
  | some left =>
    -- what is left away reaches at most to the slash in front of the detour
    rw [Option.getD_some]
    rw [Text.dropFront?_eq_some_iff] at hdrop
    rcases front with _ | ⟨c, _ | ⟨d, front⟩⟩
    · exact absurd (List.cons.inj hdrop).1 (by decide)
    · exact .inl (List.cons.inj (List.cons.inj hdrop).2).2.symm
    · exact .inr ⟨front, (List.cons.inj (List.cons.inj hdrop).2).2.symm⟩

end Path

namespace Exclusion

/-! ## A detour as a pattern -/

variable {path : List Char} {n : ℕ}

theorem directory_detour (n : ℕ) : directory (Path.detour n) = Path.detour n := by
  have hends : Path.detour n = (List.replicate n '/' ++ ['.']) ++ ['/'] := by
    rw [List.append_assoc]
    rfl
  unfold directory
  rw [hends, Text.dropTrailing_append_singleton, Text.dropTrailing_eq_self (by simp)]

/-- A detour leaves out what begins with it, or has it behind a slash. -/
theorem leavesOut_detour_iff : leavesOut path (Path.detour n) = true ↔
    Path.detour n <+: path ∨ '/' :: Path.detour n <:+: path := by
  have hsigns : ∀ c ∈ Path.detour n, c ∉ ['*', '?'] := fun c hc =>
    (Path.mem_detour hc).elim (fun h => h ▸ by decide) (fun h => h ▸ by decide)
  have hslash : (Path.detour n).contains '/' = true := by
    rw [List.contains_eq_mem]
    exact decide_eq_true (List.mem_append_right _ (by decide))
  have hstar : (Path.detour n).contains '*' = false := by
    rw [List.contains_eq_mem]
    exact decide_eq_false fun hmem => hsigns _ hmem (by decide)
  unfold leavesOut
  rw [directory_detour, hslash, hstar, Bool.not_true, Bool.false_and, Bool.or_false, Bool.not_false,
    Bool.true_and, Bool.or_eq_true, Bool.or_eq_true, Glob.covers_read_of_plain hsigns, Text.startsWith_iff,
    Text.contains_iff]
  refine or_iff_right_of_imp ?_
  rintro rfl
  exact .inl (List.prefix_refl _)

/-- A detour leaves out nothing that is shorter. -/
theorem leavesOut_detour_of_length_le (h : path.length ≤ n) : leavesOut path (Path.detour n) = false := by
  have hlength : (Path.detour n).length = n + 2 := by
    unfold Path.detour
    rw [List.length_append, List.length_replicate]
    rfl
  rw [Bool.eq_false_iff, ne_eq, leavesOut_detour_iff]
  rintro (hfront | hinside)
  · have hle := hfront.length_le
    omega
  · have hle := hinside.length_le
    rw [List.length_cons] at hle
    omega

theorem leavesOut_tidy_detour (front : List Char) (n : ℕ) :
    leavesOut (Path.tidy (front ++ '/' :: Path.detour n)) (Path.detour n) = true := by
  rw [leavesOut_detour_iff]
  rcases Path.tidy_append_detour front n with h | ⟨rest, h⟩
  · rw [h]
    exact .inl (List.prefix_refl _)
  · rw [h]
    exact .inr (List.suffix_append rest _).isInfix

/-! ## Spelling -/

section Spelling

variable {cwd root file name : String} {names : List String}

theorem check_congr {other : String} (h : Path.relative cwd other root = Path.relative cwd file root)
    (patterns : Value) :
    check cwd patterns (.string root) other = check cwd patterns (.string root) file := by
  unfold check
  dsimp only
  rw [h]

/-- A path that counts as one outside the root, although it leads below it, can be spelled in a way that some
pattern tells from it. -/
theorem exists_spelling (h : Path.resolve cwd file = Path.resolve cwd root ++ name :: names)
    (hpoints : ['.', '.'] <+: name.toList) : ∃ other pattern : String,
      Path.resolve cwd other = Path.resolve cwd file ∧
      check cwd (.list [.string pattern]) (.string root) other = .ok true ∧
      check cwd (.list [.string pattern]) (.string root) file = .ok false := by
  -- the detour is longer than the path, so that only a path with the detour can have it in it
  have hother := Path.resolve_withDetour file.length cwd file
  refine ⟨Path.withDetour file.length file, String.ofList (Path.detour file.length), hother, ?_, ?_⟩
  · rw [check_text, Path.relative_of_below (hother.trans h), if_pos hpoints, String.toList_ofList,
      String.toList_ofList, Except.ok.injEq]
    unfold Path.withDetour
    rw [String.toList_ofList]
    exact leavesOut_tidy_detour _ _
  · rw [check_text, Path.relative_of_below h, if_pos hpoints, String.toList_ofList,
      String.toList_ofList, Except.ok.injEq]
    exact leavesOut_detour_of_length_le (Path.length_tidy_le _)

/-- Below the root a file is named by the way there, and every path that leads to it is answered alike by all
patterns, exactly if the first name on the way does not begin with two points. If it does, the file keeps the
name that it has. Backslashes in names count as slashes. -/
theorem ignoresSpelling_iff (h : Path.resolve cwd file = Path.resolve cwd root ++ name :: names) :
    (¬['.', '.'] <+: name.toList →
      Path.relative cwd file root = String.ofList (Path.tidy ("/".intercalate (name :: names)).toList) ∧
      ((∀ n ∈ name :: names, '\\' ∉ n.toList) →
        Path.relative cwd file root = "/".intercalate (name :: names))) ∧
    (['.', '.'] <+: name.toList → Path.relative cwd file root = String.ofList (Path.tidy file.toList)) ∧
    ((∀ other, Path.resolve cwd other = Path.resolve cwd file →
        Path.relative cwd other root = Path.relative cwd file root) ↔ ¬['.', '.'] <+: name.toList) ∧
    ((∀ other, Path.resolve cwd other = Path.resolve cwd file → ∀ patterns,
        check cwd patterns (.string root) other = check cwd patterns (.string root) file) ↔
      ¬['.', '.'] <+: name.toList) := by
  have hname : '/' ∉ name.toList ∧ name ≠ "." := by
    have hmem : name ∈ Path.resolve cwd file := by
      rw [h]
      exact List.mem_append_right _ (List.mem_cons_self ..)
    exact Path.isName_of_mem_resolve hmem
  have hsame (hpoints : ¬['.', '.'] <+: name.toList) (other : String)
      (hother : Path.resolve cwd other = Path.resolve cwd file) :
      Path.relative cwd other root = Path.relative cwd file root := by
    rw [Path.relative_of_below h, Path.relative_of_below (hother.trans h), if_neg hpoints, if_neg hpoints]
  have htold (hall : ∀ other, Path.resolve cwd other = Path.resolve cwd file → ∀ patterns,
      check cwd patterns (.string root) other = check cwd patterns (.string root) file) :
      ¬['.', '.'] <+: name.toList := by
    intro hpoints
    obtain ⟨other, pattern, hother, hleft, hkept⟩ := exists_spelling h hpoints
    rw [hall other hother, hkept] at hleft
    exact absurd (Except.ok.inj hleft) Bool.false_ne_true
  refine ⟨fun hpoints => ?_, fun hpoints => ?_, ⟨fun hall => htold fun other hother patterns => ?_, hsame⟩,
    ⟨htold, fun hpoints other hother => check_congr (hsame hpoints other hother)⟩⟩
  · rw [Path.relative_of_below h, if_neg hpoints]
    refine ⟨rfl, fun hbackslash => ?_⟩
    rw [Path.tidy_intercalate hname.1 hname.2 hbackslash, String.ofList_toList]
  · rw [Path.relative_of_below h, if_pos hpoints]
  · exact check_congr (hall other hother) patterns

/-- A directory in the root whose name begins with two points: the path from the root and the whole path lead
to the same file, and a pattern leaves out the one and not the other. -/
theorem ignoresSpelling_iff_of_points :
    Path.resolve "/work" "..cache/a.js" = Path.resolve "/work" "." ++ "..cache" :: ["a.js"] ∧
    Path.resolve "/work" "/work/..cache/a.js" = Path.resolve "/work" "..cache/a.js" ∧
    Path.relative "/work" "..cache/a.js" "." = "..cache/a.js" ∧
    Path.relative "/work" "/work/..cache/a.js" "." = "/work/..cache/a.js" ∧
    check "/work" (.list [.string "..cache/*"]) (.string ".") "..cache/a.js" = .ok true ∧
    check "/work" (.list [.string "..cache/*"]) (.string ".") "/work/..cache/a.js" = .ok false ∧
    ¬∀ other, Path.resolve "/work" other = Path.resolve "/work" "..cache/a.js" →
      Path.relative "/work" other "." = Path.relative "/work" "..cache/a.js" "." := by
  have hplace : Path.resolve "/work" "..cache/a.js" =
      Path.resolve "/work" "." ++ "..cache" :: ["a.js"] := by decide +kernel
  have hother : Path.resolve "/work" "/work/..cache/a.js" = Path.resolve "/work" "..cache/a.js" := by
    decide +kernel
  have hpoints : ['.', '.'] <+: "..cache".toList := by decide +kernel
  refine ⟨hplace, hother, ?_, ?_, by decide +kernel, by decide +kernel, fun hall => ?_⟩
  · rw [(ignoresSpelling_iff hplace).2.1 hpoints]
    decide +kernel
  · rw [(ignoresSpelling_iff (hother.trans hplace)).2.1 hpoints]
    decide +kernel
  · exact (ignoresSpelling_iff hplace).2.2.1.1 hall hpoints

end Spelling

end Exclusion

end CodeReview
