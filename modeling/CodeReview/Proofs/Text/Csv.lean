/-
Comma-separated values read back. A reader of the same notation goes through a text character by
character: a comma ends a field and a line feed a record, but not between quotes, where a quote that is
written twice stands for itself. Whatever the fields hold, quotes, commas and line feeds among it, the
records that are read are those that were written (`read_write`).
-/
import CodeReview.Text.Csv
import Mathlib.Data.List.Basic

namespace CodeReview.Text.Csv

/-! ## Reading -/

/-- Where a reader stands. -/
inductive Place where
  /-- Before a field. -/
  | start
  /-- In a field without quotes. -/
  | bare
  /-- Between the quotes of a field. -/
  | quoted
  /-- Behind a quote between quotes, which closes the field unless another one follows. -/
  | closing
  deriving DecidableEq

/-- The records in a text from a place on. The record at that place has some `fields` already, and then
a field of which `field` has been read. -/
def readFrom (place : Place) (fields : List (List Char)) (field : List Char) :
    List Char → List (List (List Char))
  | [] => if place = .start ∧ fields = [] then [] else [fields ++ [field]]
  | c :: rest =>
    if place = .quoted then
      if c = '"' then readFrom .closing fields field rest
      else readFrom .quoted fields (field ++ [c]) rest
    else if c = ',' then readFrom .start (fields ++ [field]) [] rest
    else if c = '\n' then (fields ++ [field]) :: readFrom .start [] [] rest
    else if c = '"' ∧ place = .start then readFrom .quoted fields field rest
    else if c = '"' ∧ place = .closing then readFrom .quoted fields (field ++ [c]) rest
    else readFrom .bare fields (field ++ [c]) rest

/-- The records in a text. -/
def read (text : List Char) : List (List (List Char)) := readFrom .start [] [] text

/-! ## Fields -/

variable {fields : List (List Char)} {field inside rest : List Char} {c : Char}

theorem needsQuotes_eq_false_iff : needsQuotes c = false ↔ c ≠ ',' ∧ c ≠ '"' ∧ c ≠ '\n' := by
  simp [needsQuotes, and_assoc]

/-- Behind a field a comma or a line feed does not tell how the field was written. -/
theorem readFrom_separator {place : Place} (hplace : place ≠ .quoted) (hc : c = ',' ∨ c = '\n') :
    readFrom place fields field (c :: rest) = readFrom .closing fields field (c :: rest) := by
  rcases hc with rfl | rfl <;> simp [readFrom, hplace]

/-- What stands between quotes is read up to the quote that closes it. -/
theorem readFrom_doubleQuotes : readFrom .quoted fields field (doubleQuotes inside ++ '"' :: rest) =
    readFrom .closing fields (field ++ inside) rest := by
  induction inside generalizing field with
  | nil => simp [doubleQuotes, readFrom]
  | cons d inside ih =>
    unfold doubleQuotes at ih ⊢
    by_cases hd : d = '"'
    · -- the first of the two quotes seems to close the field
      simp [hd, readFrom, ih]
    · simp [hd, readFrom, ih]

/-- A field without quotes is read up to what cannot stand in it. -/
theorem readFrom_bare (h : ∀ d ∈ inside, needsQuotes d = false) :
    readFrom .bare fields field (inside ++ rest) = readFrom .bare fields (field ++ inside) rest := by
  induction inside generalizing field with
  | nil => rw [List.nil_append, List.append_nil]
  | cons d inside ih =>
    obtain ⟨hd, hinside⟩ := List.forall_mem_cons.1 h
    rw [needsQuotes_eq_false_iff] at hd
    simp [readFrom, hd, ih hinside]

/-- A field is read up to the comma or the line feed behind it. -/
theorem readFrom_writeField (hc : c = ',' ∨ c = '\n') :
    readFrom .start fields [] (writeField field ++ c :: rest) =
      readFrom .closing fields field (c :: rest) := by
  unfold writeField
  split
  · have htext : '"' :: doubleQuotes field ++ ['"'] ++ c :: rest =
        '"' :: (doubleQuotes field ++ '"' :: c :: rest) := by simp
    have hopen : readFrom .start fields [] ('"' :: (doubleQuotes field ++ '"' :: c :: rest)) =
        readFrom .quoted fields [] (doubleQuotes field ++ '"' :: c :: rest) := by simp [readFrom]
    rw [htext, hopen, readFrom_doubleQuotes, List.nil_append]
  · next hquotes =>
    have hplain : ∀ d ∈ field, needsQuotes d = false := by simpa using hquotes
    cases field with
    | nil => exact readFrom_separator (by decide) hc
    | cons d more =>
      obtain ⟨hd, hmore⟩ := List.forall_mem_cons.1 hplain
      rw [needsQuotes_eq_false_iff] at hd
      have hbegin : readFrom .start fields [] (d :: (more ++ c :: rest)) =
          readFrom .bare fields [d] (more ++ c :: rest) := by simp [readFrom, hd]
      rw [List.cons_append, hbegin, readFrom_bare hmore, readFrom_separator (by decide) hc]
      rfl

/-! ## Records -/

/-- The fields of a record are read up to the line feed behind them. -/
theorem readFrom_writeFields (first : List Char) (others : List (List Char)) :
    readFrom .start fields [] (writeFields (first :: others) ++ '\n' :: rest) =
      (fields ++ first :: others) :: readFrom .start [] [] rest := by
  induction others generalizing first fields with
  | nil =>
    show readFrom .start fields [] (writeField first ++ '\n' :: rest) = _
    rw [readFrom_writeField (.inr rfl)]
    simp [readFrom]
  | cons second others ih =>
    have htext : writeFields (first :: second :: others) ++ '\n' :: rest =
        writeField first ++ ',' :: (writeFields (second :: others) ++ '\n' :: rest) := by
      simp [writeFields]
    have hcomma : readFrom .closing fields first (',' :: (writeFields (second :: others) ++ '\n' :: rest)) =
        readFrom .start (fields ++ [first]) [] (writeFields (second :: others) ++ '\n' :: rest) := by
      simp [readFrom]
    rw [htext, readFrom_writeField (.inl rfl), hcomma, ih, List.append_assoc, List.singleton_append]

/-- Records with at least one field are read as they were written. -/
theorem read_write {records : List (List (List Char))} (h : ∀ record ∈ records, record ≠ []) :
    read (write records) = records := by
  unfold read write
  induction records with
  | nil => rfl
  | cons record records ih =>
    obtain ⟨hrecord, hrecords⟩ := List.forall_mem_cons.1 h
    obtain ⟨first, others, rfl⟩ := List.exists_cons_of_ne_nil hrecord
    rw [List.flatMap_cons, writeRecord, List.append_assoc, List.singleton_append, readFrom_writeFields,
      ih hrecords, List.nil_append]

/-- A field with a comma, a quote and a line feed in it, beside an empty one. -/
example : read (write [["a,\"b\"\nc".toList, []], [['d']]]) = [["a,\"b\"\nc".toList, []], [['d']]] :=
  read_write (by decide)

end CodeReview.Text.Csv
