/-
Writing scalars: which of its forms a text is written in, and how long texts are folded. A text is
written bare where it reads back as a text, else between single quotes, and between double quotes where
it holds what only escapes can spell.
-/
import CodeReview.Text.Lines
import CodeReview.Text.Quoted
import CodeReview.Yaml.Cursor
import CodeReview.Yaml.Page
import CodeReview.Yaml.Tag

namespace CodeReview.Yaml

/-! ## Forms -/

/-- The character ends a line in a text that is to be written. -/
def endsWrittenLine (c : Char) : Bool :=
  c == '\n' || c == '\u0085' || c == '\u2028' || c == '\u2029'

/-- The character needs no escape. -/
def isUnescaped (c : Char) : Bool := 0x20 ≤ c.toNat && c.toNat ≤ 0x7E

/-- Some character that passes the first test is followed by one that passes the second. -/
def hasPair (first second : Char → Bool) : List Char → Bool
  | a :: b :: rest => (first a && second b) || hasPair first second (b :: rest)
  | _ => false

/-- A colon that ends a word, or a number sign that begins one. -/
def hasInnerMark : List Char → Bool
  | a :: b :: rest =>
    (b == ':' && isGap rest.head?) || (b == '#' && isGap (some a)) || hasInnerMark (b :: rest)
  | _ => false

/-- The text begins with a mark of a document, of an entry or of another form of scalar. -/
def hasOpeningMark (text : List Char) : Bool :=
  match text with
  | [] => false
  | c :: rest =>
    "#,[]{}&*!|>'\"%@`".toList.contains c ||
      ((c == '?' || c == ':' || c == '-') && isGap rest.head?) ||
      text.take 3 == ['-', '-', '-'] || text.take 3 == ['.', '.', '.']

def isMultiline (text : List Char) : Bool := text.any endsWrittenLine

/-- The text can be written bare. -/
def canBeBare (text : List Char) : Bool :=
  text.all isUnescaped && text.head? != some ' ' && text.getLast? != some ' ' &&
    !hasOpeningMark text && !hasInnerMark text

/-- The text can be written between single quotes. -/
def canBeSingleQuoted (text : List Char) : Bool :=
  text.all (fun c => c == '\n' || isUnescaped c) &&
    !hasPair endsWrittenLine (· == ' ') text && !hasPair (· == ' ') endsWrittenLine text

inductive Form where
  | bare
  | singleQuoted
  | doubleQuoted
  deriving DecidableEq, Repr

/-- The form of a text. A key stands on one line. -/
def formOf (isKey : Bool) (text : List Char) : Form :=
  if Tag.ofPlain text == .str && canBeBare text then .bare
  else if canBeSingleQuoted text && !(isKey && isMultiline text) then .singleQuoted
  else .doubleQuoted

/-! ## Folding -/

/-- Words with blanks between them. Where a line has become too long it is folded at a single
blank. -/
def writeWords (column : Nat) (folds : Bool) : List (List Char) → Page → Page
  | [], p => p
  | [word], p => p.put word
  | word :: next :: rest, p =>
    let p := p.put word
    let isFold := folds && !word.isEmpty && !next.isEmpty && Page.width < p.column
    writeWords column folds (next :: rest) (if isFold then p.indentTo column else p.put [' '])

/-- Lines between single quotes: a run of line ends is written with one more. `isFirst` says that
nothing of the text has been written. -/
def writeLines (column : Nat) (folds isFirst : Bool) : List (List Char) → Page → Page
  | [], p => p
  | [line], p => writeWords column folds (Text.splitOnChar ' ' line) p
  | line :: next :: rest, p =>
    let p := writeWords column folds (Text.splitOnChar ' ' line) p
    let p := if isFirst || !line.isEmpty then p.breakLine else p
    let p := p.breakLine
    writeLines column folds false (next :: rest)
      (if rest.isEmpty || !next.isEmpty then p.indentTo column else p)

/-- The letters of short escapes. -/
def escapeLetters : List (Char × Char) := [
  ('\x00', '0'), ('\x07', 'a'), ('\x08', 'b'), ('\t', 't'), ('\n', 'n'), ('\x0b', 'v'),
  ('\x0c', 'f'), ('\r', 'r'), ('\x1b', 'e'), ('"', '"'), ('\\', '\\'), ('\u0085', 'N'),
  ('\u00a0', '_'), ('\u2028', 'L'), ('\u2029', 'P')]

/-- The digits of a code point in base sixteen, with capital letters. -/
def upperHex (width n : Nat) : List Char := (Text.hexPadded width n).map Char.toUpper

/-- The escape for a character. -/
def escape (c : Char) : List Char :=
  match escapeLetters.lookup c with
  | some letter => ['\\', letter]
  | none =>
    let n := Text.codePoint c
    if n < 0x100 then '\\' :: 'x' :: upperHex 2 n
    else if n < 0x10000 then '\\' :: 'u' :: upperHex 4 n
    else '\\' :: 'U' :: upperHex 8 n

/-- Folds a line between double quotes, where the line end is escaped, before the characters `next`. A
blank there is escaped too. -/
def foldQuoted (column : Nat) (next : List Char) (p : Page) : Page :=
  let p := { (p.put ['\\']).indentTo column with spaced := false, indented := false }
  if next.head? = some ' ' then p.put ['\\'] else p

/-- Characters between double quotes, after `held`, which are not on the page yet. -/
def writeQuoted (column : Nat) (folds isFirst : Bool) (held : List Char) :
    List Char → Page → Page
  | [], p => p.put held
  | c :: rest, p =>
    let mayFold := folds && !isFirst && !rest.isEmpty
    if isUnescaped c && c != '"' && c != '\\' then
      if mayFold && (c == ' ' || held.isEmpty) && Page.width < p.column + held.length then
        writeQuoted column folds false [c] rest (foldQuoted column (c :: rest) (p.put held))
      else writeQuoted column folds false (held ++ [c]) rest p
    else
      let p := (p.put held).put (escape c)
      writeQuoted column folds false [] rest
        (if mayFold && Page.width + 1 < p.column then foldQuoted column rest p else p)

/-! ## Scalars -/

/-- A text on a page whose next lines begin at a column. Keys are not folded. -/
def writeText (column : Nat) (isKey : Bool) (text : List Char) (p : Page) : Page :=
  match formOf isKey text with
  | .bare => writeWords column (!isKey) (Text.splitOnChar ' ' text) (p.mark "" true false)
  | .singleQuoted =>
    let doubled := text.flatMap fun c => if c = '\'' then ['\'', '\''] else [c]
    (writeLines column (!isKey) true (Text.lines doubled) (p.mark "'" true false)).mark "'" false
      false
  | .doubleQuoted =>
    (writeQuoted column (!isKey) true [] text (p.mark "\"" true false)).mark "\"" false false

/-- A scalar that is no text, bare. -/
def writeBare (column : Nat) (isKey : Bool) (text : List Char) (p : Page) : Page :=
  writeWords column (!isKey) (Text.splitOnChar ' ' text) (p.mark "" true false)

/-- Lines as they are, each at a column. -/
def writeLiteral (column : Nat) (lines : List (List Char)) (p : Page) : Page :=
  lines.foldl (fun p line => ((p.indentTo column).put line).breakLine)
    (p.mark "|" true false).breakLine

end CodeReview.Yaml
