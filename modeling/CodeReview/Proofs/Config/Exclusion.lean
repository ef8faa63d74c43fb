/-
What patterns that are texts leave out. A list of texts never fails to answer (`check_texts`). A name without
slashes, stars and question marks leaves out the files in whose paths it is a whole name, and with a slash at
its end those in whose paths it is a whole name on the way (`check_plainName`): of the three ways in which a
pattern can leave out a path, the glob and the glob of the last name see the name at the end, and the directory
sees it everywhere before.
-/
import CodeReview.Config.Exclusion
import CodeReview.Proofs.Glob
import CodeReview.Proofs.Text.Pieces

namespace CodeReview

/-! ## Trailing characters -/

namespace Text

variable {c : Char} {text : List Char}

theorem dropTrailing_eq_self (h : c ∉ text.getLast?) : dropTrailing c text = text := by
  unfold dropTrailing
  rw [List.dropWhile_eq_self_iff.2 ?_, List.reverse_reverse]
  intro hlength hlast
  rw [decide_eq_true_eq] at hlast
  rw [← List.head?_reverse, List.head?_eq_getElem?, List.getElem?_eq_getElem hlength] at h
  exact h (congrArg some hlast)

theorem dropTrailing_append_singleton (c : Char) (text : List Char) :
    dropTrailing c (text ++ [c]) = dropTrailing c text := by
  unfold dropTrailing
  rw [List.reverse_append, List.reverse_singleton, List.singleton_append,
    List.dropWhile_cons_of_pos (by simp)]

end Text

namespace Path

variable {name path : String}

theorem mem_pieces_iff : name ∈ pieces path ↔ name.toList ∈ Text.splitOnChar '/' path.toList := by
  unfold pieces
  rw [List.mem_map]
  constructor
  · rintro ⟨piece, hpiece, rfl⟩
    rwa [String.toList_ofList]
  · exact fun h => ⟨_, h, String.ofList_toList⟩

theorem mem_dropLast_pieces_iff :
    name ∈ (pieces path).dropLast ↔ name.toList ∈ (Text.splitOnChar '/' path.toList).dropLast := by
  unfold pieces
  rw [← List.map_dropLast, List.mem_map]
  constructor
  · rintro ⟨piece, hpiece, rfl⟩
    rwa [String.toList_ofList]
  · exact fun h => ⟨_, h, String.ofList_toList⟩

end Path

namespace Exclusion

/-! ## Lists of texts -/

theorem anyLeavesOut_texts (path : List Char) (patterns : List String) :
    anyLeavesOut path (patterns.map .string) =
      .ok (patterns.any fun pattern => leavesOut path pattern.toList) := by
  induction patterns with
  | nil => rfl
  | cons pattern patterns ih =>
    rw [List.map_cons, anyLeavesOut, leavesOut?, ih, List.any_cons]
    cases leavesOut path pattern.toList <;> rfl

/-- A list of texts and a root that is a text never fail to answer. -/
theorem check_texts (cwd : String) (patterns : List String) (root file : String) :
    check cwd (.list (patterns.map .string)) (.string root) file =
      .ok (excludes cwd patterns root file) :=
  anyLeavesOut_texts _ _

/-- One text answers as it does for the path of the file inside the root. -/
theorem check_text (cwd pattern root file : String) :
    check cwd (.list [.string pattern]) (.string root) file =
      .ok (leavesOut (Path.relative cwd file root).toList pattern.toList) := by
  have htexts := check_texts cwd [pattern] root file
  unfold excludes at htexts
  rwa [List.any_cons, List.any_nil, Bool.or_false] at htexts

/-! ## Plain names -/

variable {path name : List Char}

/-- A pattern without a star that names a directory leaves out what has the directory on its way. -/
theorem directory_leavesOut_iff (hslash : '/' ∉ name) (hstar : '*' ∉ name) :
    (!(name ++ ['/']).contains '*' && (Text.startsWith path (name ++ ['/']) ||
      Text.contains path ('/' :: (name ++ ['/'])))) = true ↔
      name ∈ (Text.splitOnChar '/' path).dropLast := by
  have hnone : (name ++ ['/']).contains '*' = false := by
    rw [List.contains_eq_mem, decide_eq_false_iff_not, List.mem_append]
    exact not_or.2 ⟨hstar, by decide⟩
  rw [hnone, Bool.not_false, Bool.true_and, Bool.or_eq_true, Text.startsWith_iff, Text.contains_iff,
    Text.mem_dropLast_splitOnChar_iff hslash, @List.infix_cons_iff _ _ '/' path,
    List.cons_prefix_cons, and_iff_right rfl]

theorem leavesOut_plain_iff (hplain : ∀ c ∈ name, c ∉ ['/', '*', '?']) :
    leavesOut path name = true ↔ name ∈ Text.splitOnChar '/' path := by
  have hslash : '/' ∉ name := fun h => hplain _ h (by decide)
  have hstar : '*' ∉ name := fun h => hplain _ h (by decide)
  have hsigns : ∀ c ∈ name, c ∉ ['*', '?'] := fun c hc h => hplain c hc (List.mem_cons_of_mem _ h)
  have hnone : name.contains '/' = false := by
    rw [List.contains_eq_mem]
    exact decide_eq_false hslash
  have hlast : '/' ∉ name.getLast? := fun h => hslash (List.mem_of_getLast? h)
  unfold leavesOut directory
  rw [Text.dropTrailing_eq_self hlast, Bool.or_eq_true, Bool.or_eq_true,
    directory_leavesOut_iff hslash hstar, hnone, Bool.not_false, Bool.true_and,
    Glob.covers_read_of_plain hsigns, Glob.covers_read_of_plain hsigns, Text.mem_splitOnChar_iff]
  constructor
  · rintro ((rfl | hend) | hway)
    · exact .inr (Text.afterLast_of_notMem hslash).symm
    · exact .inr hend.symm
    · exact .inl hway
  · rintro (hway | hend)
    · exact .inr hway
    · exact .inl (.inr hend.symm)

theorem leavesOut_plainDirectory_iff (hplain : ∀ c ∈ name, c ∉ ['/', '*', '?']) :
    leavesOut path (name ++ ['/']) = true ↔ name ∈ (Text.splitOnChar '/' path).dropLast := by
  have hslash : '/' ∉ name := fun h => hplain _ h (by decide)
  have hstar : '*' ∉ name := fun h => hplain _ h (by decide)
  have hsigns : ∀ c ∈ name ++ ['/'], c ∉ ['*', '?'] := by
    intro c hc h
    rcases List.mem_append.1 hc with hc | hc
    · exact hplain c hc (List.mem_cons_of_mem _ h)
    · rw [List.mem_singleton.1 hc] at h
      exact absurd h (by decide)
  have hsome : (name ++ ['/']).contains '/' = true := by
    rw [List.contains_eq_mem]
    exact decide_eq_true (List.mem_append_right _ (List.mem_singleton_self _))
  have hlast : '/' ∉ name.getLast? := fun h => hslash (List.mem_of_getLast? h)
  unfold leavesOut directory
  rw [Text.dropTrailing_append_singleton, Text.dropTrailing_eq_self hlast, Bool.or_eq_true,
    Bool.or_eq_true, directory_leavesOut_iff hslash hstar, hsome, Bool.not_true, Bool.false_and,
    Glob.covers_read_of_plain hsigns]
  constructor
  · rintro ((rfl | hnever) | hway)
    · rw [Text.splitOnChar_append_cons hslash]
      exact List.mem_cons_self ..
    · cases hnever
    · exact hway
  · exact .inr

/-- A plain name leaves out a file exactly if it is one of the names in the path of the file inside the root,
and with a slash at its end exactly if it is one of those before the last. -/
theorem check_plainName {name : String} (hplain : ∀ c ∈ name.toList, c ∉ ['/', '*', '?'])
    (cwd root file : String) :
    check cwd (.list [.string name]) (.string root) file =
        .ok (decide (name ∈ Path.pieces (Path.relative cwd file root))) ∧
      check cwd (.list [.string (name ++ "/")]) (.string root) file =
        .ok (decide (name ∈ (Path.pieces (Path.relative cwd file root)).dropLast)) := by
  constructor
  · rw [check_text, Except.ok.injEq, Bool.eq_iff_iff, leavesOut_plain_iff hplain, decide_eq_true_eq,
      Path.mem_pieces_iff]
  · rw [check_text, Except.ok.injEq, Bool.eq_iff_iff, String.toList_append, decide_eq_true_eq]
    exact (leavesOut_plainDirectory_iff hplain).trans Path.mem_dropLast_pieces_iff.symm

/-- A name with a point in it, first among the names of a path and then only within names, where any
character stands for the point. -/
theorem check_plainName_of_point :
    (∀ c ∈ "v.1".toList, c ∉ ['/', '*', '?']) ∧
    check "/work" (.list [.string "v.1"]) (.string ".") "/work/lib/v.1" = .ok true ∧
    check "/work" (.list [.string "v.1/"]) (.string ".") "/work/lib/v.1" = .ok false ∧
    check "/work" (.list [.string "v.1"]) (.string ".") "vx1/v.1.2/av.1/b.js" = .ok false := by
  have hchars : "v.1".toList = ['v', '.', '1'] := by decide +kernel
  have hplain : ∀ c ∈ "v.1".toList, c ∉ ['/', '*', '?'] := by
    rw [hchars]
    simp
  refine ⟨hplain, ?_, ?_, ?_⟩
  · rw [(check_plainName hplain "/work" "." "/work/lib/v.1").1]
    decide +kernel
  · exact (check_plainName hplain "/work" "." "/work/lib/v.1").2.trans (by decide +kernel)
  · rw [(check_plainName hplain "/work" "." "vx1/v.1.2/av.1/b.js").1]
    decide +kernel

end Exclusion

end CodeReview
