/-
JSON texts read back. A value whose integers are not too long, whose numbers are floating-point numbers,
whose texts split no surrogate pair, whose objects name each member once and which is not nested too deep is
written (`Legible.write_eq`) and read from its text as it was (`read_text`). The text has no carriage return,
so its lines end as they are read from a file.
-/
import CodeReview.Proofs.Json.Number
import CodeReview.Proofs.Json.Quoted

namespace CodeReview.Json

/-- What can be written and read again, nested `depth` levels deep at most. -/
inductive Legible : ℕ → Json → Prop
  | null {depth : ℕ} : Legible depth .null
  | bool {depth : ℕ} (b : Bool) : Legible depth (.bool b)
  | int {depth : ℕ} {i : ℤ} (hshort : IsShort i) : Legible depth (.int i)
  | float {depth : ℕ} {x : Double} (hproper : x.IsProper) : Legible depth (.float x)
  | string {depth : ℕ} {s : String} (hunsplit : Text.Unsplit s.toList) : Legible depth (.string s)
  | array {depth : ℕ} {items : List Json} (hitems : ∀ item ∈ items, Legible depth item) :
      Legible (depth + 1) (.array items)
  | object {depth : ℕ} {members : List (String × Json)} (hnames : (members.map Prod.fst).Nodup)
      (hunsplit : ∀ member ∈ members, Text.Unsplit member.1.toList)
      (hmembers : ∀ member ∈ members, Legible depth member.2) : Legible (depth + 1) (.object members)

/-! ## Blanks -/

theorem skipSpace_newLine (level : ℕ) (text : List Char) :
    skipSpace (newLine level ++ text) = skipSpace text := by
  unfold skipSpace newLine
  refine List.dropWhile_append_of_pos fun c hc => ?_
  rcases List.mem_cons.1 hc with rfl | hc
  · rfl
  · rw [List.eq_of_mem_replicate hc]
    rfl

theorem ends_newLine (level : ℕ) (text : List Char) : Ends (newLine level ++ text) := by
  rintro _ ⟨⟩
  exact .inr rfl

theorem ends_comma (text : List Char) : Ends (',' :: text) := by
  rintro _ ⟨⟩
  exact .inl rfl

section Values

variable {fuel depth : ℕ} {text rest : List Char} {read : Json × List Char}

theorem scalar_ne_ok {c : Char} (hc : isDecimal c = false) (hletter : c ∉ ['n', 't', 'f', 'N', '-', 'I']) :
    scalar (c :: text) ≠ .ok read := by
  intro h
  simp only [List.mem_cons, List.not_mem_nil, or_false, not_or] at hletter
  obtain ⟨hn, ht, hf, hN, hminus, hI⟩ := hletter
  rw [scalar.eq_def] at h
  split at h
  case h_6 =>
    have hname : Text.dropFront? "Infinity".toList (c :: text) = none := if_neg (Ne.symm hI)
    rw [hname] at h
    obtain ⟨d, more, heq, hd⟩ := isDecimal_of_number? h
    rw [(List.cons.inj heq).1, hd] at hc
    cases hc
  all_goals
    next heq =>
    have := (List.cons.inj heq).1
    contradiction

/-- A number or a name is a value. -/
theorem readValue_of_scalar (h : scalar text = .ok read) : readValue (fuel + 1) depth text = .ok read := by
  rw [readValue.eq_def]
  dsimp only
  split
  · exact absurd h (scalar_ne_ok rfl (by decide))
  · exact absurd h (scalar_ne_ok rfl (by decide))
  · exact absurd h (scalar_ne_ok rfl (by decide))
  · exact h

/-- A value begins with no blank, and not with the bracket that closes an array. -/
theorem skipSpace_of_readValue (h : readValue fuel depth text = .ok read) :
    skipSpace text = text ∧ ∀ more, text ≠ ']' :: more := by
  cases fuel with
  | zero => cases h
  | succ fuel =>
    cases text with
    | nil => exact ⟨rfl, fun more => nofun⟩
    | cons c text =>
      have hnone {b : Char} (hb : b ∈ [' ', '\t', '\n', '\r', ']']) : c ≠ b := by
        rintro rfl
        have hscalar : scalar (c :: text) = .ok read := by
          rw [readValue.eq_def] at h
          fin_cases hb <;> exact h
        fin_cases hb <;> exact scalar_ne_ok rfl (by decide) hscalar
      constructor
      · refine List.dropWhile_cons_of_neg ?_
        simp [isSpace, hnone]
      · intro more heq
        exact hnone (by simp) (List.cons.inj heq).1

end Values

/-! ## Items and members -/

/-- The value is read from its text wherever that stands, with fuel for twice its length. -/
def ReadsBack (depth : ℕ) (value : Json) : Prop :=
  ∀ (level fuel : ℕ) (rest : List Char), 2 * (writeAt level value).length < fuel → Ends rest →
    readValue fuel depth (writeAt level value ++ rest) = .ok (value, rest)

section Lists

variable {depth : ℕ}

/-- Before a value whose text reads back the blanks are passed over. -/
theorem ReadsBack.skipSpace {value : Json} (h : ReadsBack depth value) (level : ℕ) {rest : List Char}
    (hrest : Ends rest) :
    Json.skipSpace (writeAt level value ++ rest) = writeAt level value ++ rest ∧
      ∀ more, writeAt level value ++ rest ≠ ']' :: more :=
  skipSpace_of_readValue (h level _ rest (Nat.lt_succ_self _) hrest)

theorem ends_writeItems (level : ℕ) (items : List Json) {rest : List Char} (hrest : Ends rest) :
    Ends (writeItems level items ++ rest) := by
  cases items with
  | nil => exact hrest
  | cons item items => exact ends_comma _

/-- The items of an array are read up to the closing bracket. -/
theorem readItems_writeItems {item : Json} {items : List Json}
    (h : ∀ i ∈ item :: items, ReadsBack depth i) (level level' : ℕ) {fuel : ℕ} (rest : List Char)
    (hfuel : 2 * ((writeAt level item).length + (writeItems level items).length) + 1 < fuel) :
    readItems fuel depth
      (writeAt level item ++ (writeItems level items ++ (newLine level' ++ ']' :: rest))) =
        .ok (item :: items, rest) := by
  induction items generalizing item fuel with
  | nil =>
    obtain ⟨fuel, rfl⟩ := Nat.exists_eq_succ_of_ne_zero (Nat.ne_of_gt (Nat.zero_lt_of_lt hfuel))
    have hitem := h item (List.mem_singleton_self _) level fuel
      (newLine level' ++ ']' :: rest) (by omega) (ends_newLine _ _)
    show readItems (fuel + 1) depth (writeAt level item ++ (newLine level' ++ ']' :: rest)) = _
    rw [readItems, hitem]
    dsimp only
    rw [skipSpace_newLine]
    rfl
  | cons next items ih =>
    obtain ⟨fuel, rfl⟩ := Nat.exists_eq_succ_of_ne_zero (Nat.ne_of_gt (Nat.zero_lt_of_lt hfuel))
    have hends : Ends (newLine level' ++ ']' :: rest) := ends_newLine _ _
    have hnext := ((h next (by simp)).skipSpace level (ends_writeItems level items hends)).1
    have htext : writeItems level (next :: items) ++ (newLine level' ++ ']' :: rest) =
        ',' :: (newLine level ++ (writeAt level next ++
          (writeItems level items ++ (newLine level' ++ ']' :: rest)))) := by
      simp [writeItems]
    have hlength : (writeItems level (next :: items)).length =
        (writeAt level next).length + (writeItems level items).length + (newLine level).length + 1 := by
      simp [writeItems]
      omega
    have hitem := h item (List.mem_cons_self ..) level fuel _ (by omega) (ends_comma
      (newLine level ++ (writeAt level next ++
          (writeItems level items ++ (newLine level' ++ ']' :: rest)))))
    have hitems : readItems fuel depth (writeAt level next ++ (writeItems level items ++
        (newLine level' ++ ']' :: rest))) = .ok (next :: items, rest) :=
      ih (fun i hi => h i (List.mem_cons_of_mem _ hi)) (by omega)
    rw [htext, readItems, hitem]
    show (readItems fuel depth (Json.skipSpace _)).map _ = _
    rw [skipSpace_newLine, hnext, hitems]
    rfl

theorem insert_of_notMem {key : String} {value : Json} {members : List (String × Json)}
    (h : key ∉ members.map Prod.fst) : insert key value members = members ++ [(key, value)] := by
  induction members with
  | nil => rfl
  | cons member members ih =>
    rw [List.map_cons, List.mem_cons, not_or] at h
    rw [insert, if_neg (Ne.symm h.1), ih h.2]
    rfl

theorem length_lt_writeString (text : List Char) : text.length < (writeString text).length := by
  have hunit (n : ℕ) : 0 < (writeUnit n).length := Nat.succ_pos _
  have hchar (c : Char) : 0 < (writeChar c).length := by
    unfold writeChar
    split
    case h_8 =>
      dsimp only
      split_ifs
      · exact Nat.one_pos
      · exact hunit _
      · rw [List.length_append]
        exact Nat.add_pos_left (hunit _) _
    all_goals exact Nat.two_pos
  have hchars : text.length ≤ (text.flatMap writeChar).length := by
    induction text with
    | nil => exact le_rfl
    | cons c text ih =>
      have hfirst := hchar c
      rw [List.flatMap_cons, List.length_append, List.length_cons]
      omega
  unfold writeString
  rw [List.length_append, List.length_cons]
  omega

/-- One member is read; a brace after it ends the object, and a comma leads to the next. -/
theorem readMembers_member {key : String} {value : Json} {seen : List (String × Json)}
    (h : ReadsBack depth value) (hunsplit : Text.Unsplit key.toList) (hnew : key ∉ seen.map Prod.fst)
    (level : ℕ) {fuel : ℕ} {rest : List Char}
    (hfuel : 2 * ((writeString key.toList).length + (writeAt level value).length) < fuel)
    (hrest : Ends rest) :
    (∀ after, Json.skipSpace rest = '}' :: after → readMembers (fuel + 1) depth seen
      (writeString key.toList ++ ':' :: ' ' :: (writeAt level value ++ rest)) =
        .ok (seen ++ [(key, value)], after)) ∧
    ∀ after, Json.skipSpace rest = ',' :: after → readMembers (fuel + 1) depth seen
      (writeString key.toList ++ ':' :: ' ' :: (writeAt level value ++ rest)) =
        readMembers fuel depth (seen ++ [(key, value)]) (Json.skipSpace after) := by
  have hkey := length_lt_writeString key.toList
  have hstring := stringBody_flatMap (show key.toList.length < fuel by omega) hunsplit
    (':' :: ' ' :: (writeAt level value ++ rest))
  have hread := h level fuel rest (by omega) hrest
  have hskip := (h.skipSpace level hrest).1
  have htext : writeString key.toList ++ ':' :: ' ' :: (writeAt level value ++ rest) =
      '"' :: (key.toList.flatMap writeChar ++ '"' :: ':' :: ' ' :: (writeAt level value ++ rest)) := by
    simp [writeString]
  have hcolon : Json.skipSpace (':' :: ' ' :: (writeAt level value ++ rest)) =
      ':' :: ' ' :: (writeAt level value ++ rest) := rfl
  have hblank : Json.skipSpace (' ' :: (writeAt level value ++ rest)) = writeAt level value ++ rest :=
    hskip
  refine ⟨fun after hend => ?_, fun after hnext => ?_⟩
  · rw [htext, readMembers, hstring]
    simp only [hcolon, hblank, hread, hend, String.ofList_toList, insert_of_notMem hnew]
  · rw [htext, readMembers, hstring]
    simp only [hcolon, hblank, hread, hnext, String.ofList_toList, insert_of_notMem hnew]

theorem notMem_names_of_nodup {key : String} {value : Json} {members seen : List (String × Json)}
    (h : ((seen ++ (key, value) :: members).map Prod.fst).Nodup) : key ∉ seen.map Prod.fst := by
  rw [List.map_append, List.nodup_append] at h
  exact fun hmem => h.2.2 key hmem key (List.mem_cons_self ..) rfl

/-- The members of an object are read up to the closing brace, after those that were seen. -/
theorem readMembers_writeMembers {key : String} {value : Json} {members seen : List (String × Json)}
    (h : ∀ m ∈ (key, value) :: members, ReadsBack depth m.2)
    (hunsplit : ∀ m ∈ (key, value) :: members, Text.Unsplit m.1.toList)
    (hnames : ((seen ++ (key, value) :: members).map Prod.fst).Nodup) (level level' : ℕ) {fuel : ℕ}
    (rest : List Char)
    (hfuel : 2 * ((writeString key.toList).length + (writeAt level value).length +
      (writeMembers level members).length) + 1 < fuel) :
    readMembers fuel depth seen
      (writeString key.toList ++ ':' :: ' ' :: (writeAt level value ++
        (writeMembers level members ++ (newLine level' ++ '}' :: rest)))) =
          .ok (seen ++ (key, value) :: members, rest) := by
  -- the first member is always there: what follows it is a brace or, after a comma, the next one
  induction members generalizing key value seen fuel with
  | nil =>
    obtain ⟨fuel, rfl⟩ := Nat.exists_eq_succ_of_ne_zero (Nat.ne_of_gt (Nat.zero_lt_of_lt hfuel))
    have hnew := notMem_names_of_nodup hnames
    have hvalue : ReadsBack depth value := h _ (List.mem_singleton_self _)
    have hlength : 2 * ((writeString key.toList).length + (writeAt level value).length) < fuel := by omega
    have hkey : Text.Unsplit key.toList := hunsplit _ (List.mem_singleton_self _)
    have hmember := readMembers_member hvalue hkey hnew level hlength (ends_newLine level' ('}' :: rest))
    exact hmember.1 rest (skipSpace_newLine level' _)
  | cons next members ih =>
    obtain ⟨fuel, rfl⟩ := Nat.exists_eq_succ_of_ne_zero (Nat.ne_of_gt (Nat.zero_lt_of_lt hfuel))
    obtain ⟨nextKey, nextValue⟩ := next
    have hnew := notMem_names_of_nodup hnames
    have hseen : seen ++ (key, value) :: (nextKey, nextValue) :: members =
        (seen ++ [(key, value)]) ++ (nextKey, nextValue) :: members := by simp
    have htext : writeMembers level ((nextKey, nextValue) :: members) ++ (newLine level' ++ '}' :: rest) =
        ',' :: (newLine level ++ (writeString nextKey.toList ++ ':' :: ' ' :: (writeAt level nextValue ++
          (writeMembers level members ++ (newLine level' ++ '}' :: rest))))) := by
      simp [writeMembers]
    have hlength : (writeMembers level ((nextKey, nextValue) :: members)).length =
        (writeString nextKey.toList).length + (writeAt level nextValue).length +
          (writeMembers level members).length + (newLine level).length + 3 := by
      simp [writeMembers]
      omega
    have hquote : Json.skipSpace (newLine level ++ (writeString nextKey.toList ++ ':' :: ' ' ::
        (writeAt level nextValue ++ (writeMembers level members ++ (newLine level' ++ '}' :: rest))))) =
        writeString nextKey.toList ++ ':' :: ' ' :: (writeAt level nextValue ++
          (writeMembers level members ++ (newLine level' ++ '}' :: rest))) := by
      rw [skipSpace_newLine]
      rfl
    have hvalue : ReadsBack depth value := h _ (List.mem_cons_self ..)
    have hmembers : readMembers fuel depth (seen ++ [(key, value)]) (writeString nextKey.toList ++
        ':' :: ' ' :: (writeAt level nextValue ++ (writeMembers level members ++
          (newLine level' ++ '}' :: rest)))) =
            .ok ((seen ++ [(key, value)]) ++ (nextKey, nextValue) :: members, rest) :=
      ih (fun m hm => h m (List.mem_cons_of_mem _ hm)) (fun m hm => hunsplit m (List.mem_cons_of_mem _ hm))
        (by rwa [← hseen]) (by omega)
    have hkey : Text.Unsplit key.toList := hunsplit _ (List.mem_cons_self ..)
    rw [htext, (readMembers_member hvalue hkey hnew level (by omega) (ends_comma _)).2 _ rfl, hquote,
      hmembers, hseen]

end Lists

/-! ## Values -/

theorem ReadsBack.of_succ {depth : ℕ} {value : Json}
    (h : ∀ (level fuel : ℕ) (rest : List Char), 2 * (writeAt level value).length < fuel + 1 → Ends rest →
      readValue (fuel + 1) depth (writeAt level value ++ rest) = .ok (value, rest)) :
    ReadsBack depth value := by
  intro level fuel rest hfuel hrest
  obtain ⟨fuel, rfl⟩ := Nat.exists_eq_succ_of_ne_zero (Nat.ne_of_gt (Nat.zero_lt_of_lt hfuel))
  exact h level fuel rest hfuel hrest

theorem readsBack_array {depth : ℕ} {items : List Json} (h : ∀ item ∈ items, ReadsBack depth item) :
    ReadsBack (depth + 1) (.array items) := by
  refine .of_succ fun level fuel rest hfuel hrest => ?_
  cases items with
  | nil => rfl
  | cons item items =>
    have hends : Ends (newLine level ++ ']' :: rest) := ends_newLine _ _
    have hskip := (h item (List.mem_cons_self ..)).skipSpace (level + 1)
      (ends_writeItems (level + 1) items hends)
    have htext : writeAt level (.array (item :: items)) ++ rest =
        '[' :: (newLine (level + 1) ++ (writeAt (level + 1) item ++ (writeItems (level + 1) items ++
          (newLine level ++ ']' :: rest)))) := by
      simp [writeAt]
    have hlength : (writeAt level (.array (item :: items))).length =
        (writeAt (level + 1) item).length + (writeItems (level + 1) items).length +
          (newLine (level + 1)).length + (newLine level).length + 2 := by
      simp [writeAt]
      omega
    have hfuel : 2 * ((writeAt (level + 1) item).length + (writeItems (level + 1) items).length) + 1 <
        fuel := by omega
    have hitems := readItems_writeItems h (level + 1) level rest hfuel
    rw [htext, readValue]
    split
    · next heq =>
      rw [skipSpace_newLine, hskip.1] at heq
      exact absurd heq (hskip.2 _)
    · rw [skipSpace_newLine, hskip.1, hitems]
      rfl

theorem readsBack_object {depth : ℕ} {members : List (String × Json)}
    (hnames : (members.map Prod.fst).Nodup) (hunsplit : ∀ member ∈ members, Text.Unsplit member.1.toList)
    (h : ∀ member ∈ members, ReadsBack depth member.2) : ReadsBack (depth + 1) (.object members) := by
  refine .of_succ fun level fuel rest hfuel hrest => ?_
  cases members with
  | nil => rfl
  | cons member members =>
    obtain ⟨key, value⟩ := member
    have htext : writeAt level (.object ((key, value) :: members)) ++ rest =
        '{' :: (newLine (level + 1) ++ (writeString key.toList ++ ':' :: ' ' ::
          (writeAt (level + 1) value ++ (writeMembers (level + 1) members ++
            (newLine level ++ '}' :: rest))))) := by
      simp [writeAt]
    have hlength : (writeAt level (.object ((key, value) :: members))).length =
        (writeString key.toList).length + (writeAt (level + 1) value).length +
          (writeMembers (level + 1) members).length + (newLine (level + 1)).length +
          (newLine level).length + 4 := by
      simp [writeAt]
      omega
    have hfuel : 2 * ((writeString key.toList).length + (writeAt (level + 1) value).length +
        (writeMembers (level + 1) members).length) + 1 < fuel := by omega
    have hseen : (([] ++ (key, value) :: members).map Prod.fst).Nodup := hnames
    have hmembers := readMembers_writeMembers h hunsplit hseen (level + 1) level rest hfuel
    have hquote : Json.skipSpace (writeString key.toList ++ ':' :: ' ' :: (writeAt (level + 1) value ++
        (writeMembers (level + 1) members ++ (newLine level ++ '}' :: rest)))) =
        writeString key.toList ++ ':' :: ' ' :: (writeAt (level + 1) value ++
          (writeMembers (level + 1) members ++ (newLine level ++ '}' :: rest))) := rfl
    rw [htext, readValue, skipSpace_newLine, hquote]
    split
    · next heq => exact absurd (List.cons.inj heq).1 (by decide)
    · rw [hmembers]
      rfl

/-- A legible value is read from its text. -/
theorem readsBack_of_legible {depth : ℕ} {value : Json} (h : Legible depth value) :
    ReadsBack depth value := by
  induction h with
  | null => exact .of_succ fun _ _ _ _ _ => readValue_of_scalar rfl
  | bool b =>
    refine .of_succ fun _ _ _ _ _ => ?_
    cases b with
    | true => exact readValue_of_scalar rfl
    | false => exact readValue_of_scalar rfl
  | int hshort => exact .of_succ fun _ _ _ _ hrest => readValue_of_scalar (scalar_integer hshort hrest)
  | float hproper =>
    exact .of_succ fun _ _ _ _ hrest => readValue_of_scalar (scalar_writeFloat hproper hrest)
  | @string _ s hunsplit =>
    refine .of_succ fun level fuel rest hfuel _ => ?_
    have hlength := length_lt_writeString s.toList
    have hsize : (writeAt level (.string s)).length = (writeString s.toList).length := rfl
    have htext : writeAt level (.string s) ++ rest =
        '"' :: (s.toList.flatMap writeChar ++ '"' :: rest) := by
      simp [writeAt, writeString]
    rw [htext, readValue, stringBody_flatMap (by omega) hunsplit]
    show Except.ok (Json.string (String.ofList s.toList), rest) = _
    rw [String.ofList_toList]
  | array _ ih => exact readsBack_array ih
  | object hnames hunsplit _ ih => exact readsBack_object hnames hunsplit ih

/-- A legible value that is not nested too deep is read from its text. -/
theorem read_text {value : Json} (h : Legible maxDepth value) : read value.text = .ok value := by
  have hread := readsBack_of_legible h 0 (2 * value.text.length + 1) [] (Nat.lt_succ_self _) nofun
  rw [List.append_nil] at hread
  have hskip := (skipSpace_of_readValue hread).1
  unfold read
  rw [show value.text = writeAt 0 value from rfl] at *
  rw [hskip, hread]
  rfl

/-! ## What is written -/

section Obstacles

variable {depth : ℕ} {e : WriteError}

theorem obstacleInItems?_eq_none {items : List Json} (h : ∀ item ∈ items, obstacle? depth item = none) :
    obstacleInItems? depth items = none := by
  induction items with
  | nil => rfl
  | cons item items ih =>
    obtain ⟨hitem, hitems⟩ := List.forall_mem_cons.1 h
    rw [obstacleInItems?, hitem, ih hitems]
    rfl

theorem obstacleInMembers?_eq_none {members : List (String × Json)}
    (h : ∀ member ∈ members, obstacle? depth member.2 = none) : obstacleInMembers? depth members = none := by
  induction members with
  | nil => rfl
  | cons member members ih =>
    obtain ⟨hmember, hmembers⟩ := List.forall_mem_cons.1 h
    rw [obstacleInMembers?, hmember, ih hmembers]
    rfl

/-- Nothing keeps a legible value from being written. -/
theorem Legible.obstacle?_eq_none {value : Json} (h : Legible depth value) : obstacle? depth value = none := by
  induction h with
  | int hshort => exact hshort.obstacle?_eq_none _
  | array _ ih => exact obstacleInItems?_eq_none ih
  | object _ _ _ ih => exact obstacleInMembers?_eq_none ih
  | _ => rfl

end Obstacles

theorem Legible.write_eq {value : Json} (h : Legible maxDepth value) : write value = .ok value.text := by
  unfold write
  rw [h.obstacle?_eq_none]

/-! ## No carriage return -/

@[simp] theorem return_notMem_toDigits (n : ℕ) : '\r' ∉ Nat.toDigits 10 n :=
  fun h => by cases Integer.isDecimal_of_mem_toDigits h

@[simp] theorem return_notMem_newLine (level : ℕ) : '\r' ∉ newLine level := by simp [newLine]

@[simp] theorem return_notMem_text (i : ℤ) : '\r' ∉ Integer.text i := by
  unfold Integer.text
  split_ifs <;> simp

theorem return_notMem_writeUnit {n : ℕ} (h : n < 0x10000) : '\r' ∉ writeUnit n := by
  unfold writeUnit
  rw [hexPadded_four h]
  simp

theorem return_notMem_writeChar (c : Char) : '\r' ∉ writeChar c := by
  have hvalid : c.toNat < 0xD800 ∨ (0xDFFF < c.toNat ∧ c.toNat < 0x110000) := c.valid
  unfold writeChar
  split
  case h_8 hreturn _ _ _ =>
    dsimp only
    split_ifs with hplain hplane
    · exact fun h => hreturn (List.mem_singleton.1 h).symm
    · exact return_notMem_writeUnit hplane
    · have hchar := Text.codePoint_of_large (Nat.not_lt.1 hplane)
      rw [List.mem_append]
      exact not_or.2 ⟨return_notMem_writeUnit (by omega), return_notMem_writeUnit (by omega)⟩
  all_goals decide

@[simp] theorem return_notMem_writeString (text : List Char) : '\r' ∉ writeString text := by
  simp [writeString, return_notMem_writeChar]

theorem return_notMem_layOut (layout : Double.Layout) (digits : ℕ) (place : ℤ) :
    '\r' ∉ Double.layOut layout digits place := by
  have hdigits := return_notMem_toDigits digits
  have hexponent (exponent : ℤ) : '\r' ∉ Double.exponentText layout exponent := by
    unfold Double.exponentText Text.padLeft
    split_ifs <;> simp
  unfold Double.layOut
  dsimp only
  generalize Nat.toDigits 10 digits = ds at hdigits
  split_ifs
  · simp [hdigits]
  · have htake (n : ℕ) : '\r' ∉ ds.take n := fun h => hdigits (List.mem_of_mem_take h)
    have hdrop (n : ℕ) : '\r' ∉ ds.drop n := fun h => hdigits (List.mem_of_mem_drop h)
    simp [htake, hdrop]
  · simp [hdigits]
  · split
    · simpa [hexponent] using hdigits
    · simpa [hexponent] using hdigits
    · exact List.not_mem_nil

@[simp] theorem return_notMem_writeFloat (x : Double) : '\r' ∉ writeFloat x := by
  cases x with
  | infinity negative => cases negative <;> decide
  | nan => decide
  | negZero => decide
  | finite value =>
    show '\r' ∉ Double.finiteText value
    unfold Double.finiteText
    split_ifs <;> simp [return_notMem_layOut]

mutual

/-- The text of a value has no carriage return. -/
@[simp] theorem return_notMem_writeAt (level : ℕ) : ∀ value, '\r' ∉ writeAt level value
  | .null => by simp [writeAt]
  | .bool b => by cases b <;> simp [writeAt]
  | .int i => return_notMem_text i
  | .float x => return_notMem_writeFloat x
  | .string s => return_notMem_writeString s.toList
  | .array [] => by simp [writeAt]
  | .array (item :: items) => by
    simp [writeAt, return_notMem_writeAt _ item, return_notMem_writeItems _ items]
  | .object [] => by simp [writeAt]
  | .object ((key, value) :: members) => by
    simp [writeAt, return_notMem_writeAt _ value, return_notMem_writeMembers _ members]

theorem return_notMem_writeItems (level : ℕ) : ∀ items, '\r' ∉ writeItems level items
  | [] => by simp [writeItems]
  | item :: items => by
    simp [writeItems, return_notMem_writeAt _ item, return_notMem_writeItems _ items]

theorem return_notMem_writeMembers (level : ℕ) : ∀ members, '\r' ∉ writeMembers level members
  | [] => by simp [writeMembers]
  | (key, value) :: members => by
    simp [writeMembers, return_notMem_writeAt _ value, return_notMem_writeMembers _ members]

end

end CodeReview.Json
