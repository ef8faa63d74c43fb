/-
Characters by their names. The names of Hangul syllables are put together from sounds, those of some ideographs end
with the code point itself, and all others stand in tables. Case does not count in them, except in the names of
syllables and of unified ideographs.
-/
import CodeReview.Text.CodePoint
import CodeReview.Text.Digit
import CodeReview.Text.Find
import CodeReview.Text.Lines
import CodeReview.Text.NameTable

namespace CodeReview.Text

/-! ## Hangul syllables -/

def leadingSounds : List String :=
  ["G", "GG", "N", "D", "DD", "R", "M", "B", "BB", "S", "SS", "", "J", "JJ", "C", "K", "T", "P", "H"]

def vowelSounds : List String :=
  ["A", "AE", "YA", "YAE", "EO", "E", "YEO", "YE", "O", "WA", "WAE", "OE", "YO", "U", "WEO", "WE", "WI", "YU", "EU",
    "YI", "I"]

def trailingSounds : List String :=
  ["", "G", "GG", "GS", "N", "NJ", "NH", "D", "L", "LG", "LM", "LB", "LS", "LT", "LP", "LH", "M", "B", "BS", "S", "SS",
    "NG", "J", "C", "K", "T", "P", "H"]

/-- The longest of the sounds that the text begins with, by its place among them, and what follows it. -/
def takeSound? (sounds : List String) (text : List Char) : Option (Nat × List Char) :=
  sounds.zipIdx.foldl longer none
where
  longer (best : Option (Nat × List Char)) (sound : String × Nat) : Option (Nat × List Char) :=
    match dropFront? sound.1.toList text, best with
    | none, _ => best
    | some rest, none => some (sound.2, rest)
    | some rest, some (_, left) => if rest.length < left.length then some (sound.2, rest) else best

/-- The code point of a Hangul syllable. -/
def syllable? (name : List Char) : Option Nat := do
  let sounds ← dropFront? "HANGUL SYLLABLE ".toList name
  let (leading, sounds) ← takeSound? leadingSounds sounds
  let (vowel, sounds) ← takeSound? vowelSounds sounds
  let (trailing, sounds) ← takeSound? trailingSounds sounds
  if sounds.isEmpty then some (0xAC00 + 28 * (21 * leading + vowel) + trailing) else none

/-! ## Names that end with the code point -/

/-- The code points that are unified ideographs. -/
def unifiedRanges : List (Nat × Nat) := [
    (0x3400, 0x4DBF), (0x4E00, 0x9FFF), (0x20000, 0x2A6DF), (0x2A700, 0x2B738), (0x2B740, 0x2B81D),
    (0x2B820, 0x2CEA1), (0x2CEB0, 0x2EBE0), (0x30000, 0x3134A)]

/-- The code point of a unified ideograph, in four or five digits. -/
def unifiedIdeograph? (name : List Char) : Option Nat := do
  let digits ← dropFront? "CJK UNIFIED IDEOGRAPH-".toList name
  let n := numberIn 16 digits
  let isCode := digits.all (fun c => isHexDigit c && !c.isLower) && (digits.length == 4 || digits.length == 5)
  if isCode && inRanges unifiedRanges n then some n else none

/-- What the names begin with that end with the code point, and the code points that have them. -/
def codedNames : List (String × List (Nat × Nat)) := [
    ("CJK COMPATIBILITY IDEOGRAPH-", [(0xF900, 0xFA6D), (0xFA70, 0xFAD9), (0x2F800, 0x2FA1D)]),
    ("KHITAN SMALL SCRIPT CHARACTER-", [(0x18B00, 0x18CD5)]),
    ("NUSHU CHARACTER-", [(0x1B170, 0x1B2FB)])]

/-- The code point that a name in capitals ends with. -/
def codedName? (name : List Char) : Option Nat :=
  codedNames.findSome? fun (front, ranges) => do
    let digits ← dropFront? front.toList name
    let n := numberIn 16 digits
    if digits.all isHexDigit && digits.head? ≠ some '0' && inRanges ranges n then some n else none

/-! ## Names in tables -/

/-- The words of a name in a table, after those of the name before. -/
def wordsOfName (before : List (List Char)) (digit : Char) (own : List Char) : List (List Char) :=
  before.take (digit.toNat - 48) ++ splitOnChar ' ' own

/-- A search in a table: the words of the last name in it so far, and the code point that has been found. -/
structure NameSearch where
  last : List (List Char)
  found : Option Nat

/-- The search after one more name and its code point. -/
def NameSearch.step (wanted : List (List Char)) (search : NameSearch) (entry : List Char × Nat) : NameSearch :=
  match entry with
  | ([], _) => search
  | (digit :: own, n) =>
    let words := wordsOfName search.last digit own
    ⟨words, if words = wanted then some n else search.found⟩

/-- The names on a line of a table, with their code points. -/
def namesOfLine (line : String) : List (List Char × Nat) :=
  let (code, names) := cutAtFirst ' ' line.toList
  (splitOnChar '|' names).zipIdx (numberIn 16 code)

/-- The code point of a name in capitals that is in the table. -/
def tableName? (table : List String) (name : List Char) : Option Nat :=
  (table.foldl (fun search line => (namesOfLine line).foldl (NameSearch.step (splitOnChar ' ' name)) search)
    ⟨[], none⟩).found

/-! ## All names -/

/-- The code point of the character with that name. -/
def codeNamed? (name : List Char) : Option Nat :=
  let capitals := name.map Char.toUpper
  syllable? name <|> unifiedIdeograph? name <|> codedName? capitals <|>
    tableName? nameTable capitals <|> tableName? furtherNames capitals

end CodeReview.Text
