/-
The tokens of a text, from left to right. What may turn out to be a key is remembered until a colon
follows it on the same line; then the token that announces it, and the one that begins its mapping,
are put before it. Reading stops at the first fault; the tokens before it are kept.
-/
import CodeReview.Yaml.BlockScalar
import CodeReview.Yaml.PlainScalar
import CodeReview.Yaml.Property
import CodeReview.Yaml.QuotedScalar

namespace CodeReview.Yaml

/-- Something that will be a key if a colon follows. -/
structure PossibleKey where
  /-- How many tokens stand before it. -/
  position : Nat
  /-- It stands where only a key can stand. -/
  required : Bool
  index : Nat
  line : Nat
  column : Nat
  deriving Repr

/-- A text on its way into tokens. -/
structure Lexer where
  cursor : Cursor
  /-- How many brackets are open. -/
  flowLevel : Nat := 0
  /-- The column of the innermost block collection. -/
  indent : Int := -1
  /-- The columns of the others, the inner ones first. -/
  outerIndents : List Int := []
  keyAllowed : Bool := true
  /-- What may be a key, by the number of open brackets. -/
  keys : List (Nat × PossibleKey) := []
  /-- The tokens so far, the last one first. -/
  tokens : List Token := []
  deriving Repr

namespace Lexer

def inFlow (l : Lexer) : Bool := 0 < l.flowLevel

def column (l : Lexer) : Int := l.cursor.column

def push (l : Lexer) (t : Token) : Lexer := { l with tokens := t :: l.tokens }

/-- The token put behind the first `position` tokens. -/
def insertAt (l : Lexer) (position : Nat) (t : Token) : Lexer :=
  { l with tokens := l.tokens.insertIdx (l.tokens.length - position) t }

def advance (l : Lexer) (n : Nat) : Lexer := { l with cursor := l.cursor.skip n }

def allowKey (l : Lexer) (allowed : Bool) : Lexer := { l with keyAllowed := allowed }

/-! ## Keys -/

/-- A key is on one line and not longer than this. -/
def maxKeyLength : Nat := 1024

def isStale (l : Lexer) (key : PossibleKey) : Bool :=
  key.line ≠ l.cursor.line || maxKeyLength < l.cursor.index - key.index

/-- Forgets what can no longer be a key; a fault where one was required. -/
def dropStaleKeys (l : Lexer) : Except Fault Lexer :=
  if l.keys.any fun (_, key) => l.isStale key && key.required then .error tokenFault
  else .ok { l with keys := l.keys.filter fun (_, key) => !l.isStale key }

/-- Forgets what may be a key inside the innermost brackets. -/
def dropKey (l : Lexer) : Except Fault Lexer :=
  match l.keys.lookup l.flowLevel with
  | none => .ok l
  | some key =>
    if key.required then .error tokenFault
    else .ok { l with keys := l.keys.filter fun (level, _) => level ≠ l.flowLevel }

/-- Remembers that what comes next may be a key. -/
def saveKey (l : Lexer) : Except Fault Lexer :=
  if l.keyAllowed then do
    let l ← l.dropKey
    let key : PossibleKey := {
      position := l.tokens.length
      required := !l.inFlow && l.indent == l.column
      index := l.cursor.index
      line := l.cursor.line
      column := l.cursor.column }
    return { l with keys := (l.flowLevel, key) :: l.keys }
  else .ok l

/-! ## Indentation -/

/-- Ends the block collections that stand further right than a column; `outer` are the columns around
the innermost. -/
def unwindTo (column : Int) (l : Lexer) : List Int → Lexer
  | [] => l
  | indent :: outer =>
    if column < l.indent then
      unwindTo column { l.push .blockEnd with indent, outerIndents := outer } outer
    else l

/-- Ends the block collections that stand further right than a column; inside brackets there are
none. -/
def unwind (l : Lexer) (column : Int) : Lexer :=
  if l.inFlow then l else unwindTo column l l.outerIndents

/-- Begins a block collection in a column, unless one stands there. -/
def indentTo (l : Lexer) (column : Int) : Option Lexer :=
  if l.indent < column then
    some { l with indent := column, outerIndents := l.indent :: l.outerIndents }
  else none

/-! ## Gaps -/

/-- The place of the next token. A line end outside of brackets lets a key follow. -/
def skipGaps : Nat → Lexer → Lexer
  | 0, l => l
  | fuel + 1, l =>
    let c := l.cursor.skipBlanks.skipComment
    let (br, after) := c.lineBreak
    if br.isEmpty then { l with cursor := c }
    else skipGaps fuel { l with cursor := after, keyAllowed := l.keyAllowed || !l.inFlow }

/-- A mark at the beginning of the text is passed over. -/
def skipMark (l : Lexer) : Lexer :=
  if l.cursor.index = 0 && l.cursor.peek = some byteOrderMark then l.advance 1 else l

/-! ## Tokens -/

/-- A line of three hyphens or three points, or a directive, ends all that is open. -/
def endBlocks (l : Lexer) : Except Fault Lexer := do
  return (← (l.unwind (-1)).dropKey).allowKey false

def readDirective (l : Lexer) : Except Fault Lexer := do
  let l ← l.endBlocks
  let (directive, cursor) ← Property.directive l.cursor
  return { l with cursor }.push (.directive directive)

def readMarker (l : Lexer) (t : Token) : Except Fault Lexer := do
  return ((← l.endBlocks).advance 3).push t

def openBracket (l : Lexer) (t : Token) : Except Fault Lexer := do
  let l ← l.saveKey
  return ({ l with flowLevel := l.flowLevel + 1, keyAllowed := true }.advance 1).push t

def closeBracket (l : Lexer) (t : Token) : Except Fault Lexer := do
  let l ← l.dropKey
  return ({ l with flowLevel := l.flowLevel - 1, keyAllowed := false }.advance 1).push t

def readComma (l : Lexer) : Except Fault Lexer := do
  return ((← (l.allowKey true).dropKey).advance 1).push .flowEntry

/-- Begins a block collection here, outside of brackets and where one may begin. -/
def beginBlock (l : Lexer) (t : Token) : Except Fault Lexer :=
  if l.inFlow then .ok l
  else if !l.keyAllowed then .error tokenFault
  else match l.indentTo l.column with
    | some l => .ok (l.push t)
    | none => .ok l

def readEntry (l : Lexer) : Except Fault Lexer := do
  let l ← l.beginBlock .blockSequenceStart
  return ((← (l.allowKey true).dropKey).advance 1).push .blockEntry

def readKey (l : Lexer) : Except Fault Lexer := do
  let l ← l.beginBlock .blockMappingStart
  return ((← (l.allowKey (!l.inFlow)).dropKey).advance 1).push .key

/-- A colon: it makes what may be a key one, or else belongs to a key announced before. -/
def readValue (l : Lexer) : Except Fault Lexer := do
  match l.keys.lookup l.flowLevel with
  | some key =>
    let l := { l with keys := l.keys.filter fun (level, _) => level ≠ l.flowLevel }
    let l := l.insertAt key.position .key
    let l := if l.inFlow then l else match l.indentTo key.column with
      | some l => l.insertAt key.position .blockMappingStart
      | none => l
    return ((l.allowKey false).advance 1).push .value
  | none =>
    let l ← l.beginBlock .blockMappingStart
    return ((← (l.allowKey (!l.inFlow)).dropKey).advance 1).push .value

/-- Something that may be a key and after which none begins. -/
def readNode (l : Lexer) (read : Cursor → Except Fault (Token × Cursor)) : Except Fault Lexer := do
  let l ← l.saveKey
  let (t, cursor) ← read l.cursor
  return { l with cursor, keyAllowed := false }.push t

def readBlockScalar (l : Lexer) (folded : Bool) : Except Fault Lexer := do
  let l ← (l.allowKey true).dropKey
  let (text, cursor) ← BlockScalar.read folded l.indent l.cursor
  return { l with cursor }.push (.scalar text false)

def readPlain (l : Lexer) : Except Fault Lexer := do
  let l ← l.saveKey
  let scalar := PlainScalar.read l.inFlow (l.indent + 1) l.cursor
  return { l with cursor := scalar.cursor, keyAllowed := scalar.keyAllowed }.push
    (.scalar scalar.text true)

/-- A plain scalar begins with a character followed by `next`. -/
def beginsPlain (inFlow : Bool) (c : Char) (next : Option Char) : Bool :=
  (!isGap (some c) && !"-?:,[]\x7b\x7d#&*!|>'\"%@`".toList.contains c) ||
    (!isGap next && (c == '-' || (!inFlow && (c == '?' || c == ':'))))

/-- The token that begins with a character. -/
def readToken (l : Lexer) (c : Char) : Except Fault Lexer :=
  let next := l.cursor.peekAt 1
  let atMargin := l.cursor.column = 0
  if c = '%' && atMargin then l.readDirective
  else if c = '-' && atMargin && l.cursor.atMarker then l.readMarker .documentStart
  else if c = '.' && atMargin && l.cursor.atMarker then l.readMarker .documentEnd
  else if c = '[' then l.openBracket .flowSequenceStart
  else if c = '\x7b' then l.openBracket .flowMappingStart
  else if c = ']' then l.closeBracket .flowSequenceEnd
  else if c = '\x7d' then l.closeBracket .flowMappingEnd
  else if c = ',' then l.readComma
  else if c = '-' && isGap next then l.readEntry
  else if c = '?' && (l.inFlow || isGap next) then l.readKey
  else if c = ':' && (l.inFlow || isGap next) then l.readValue
  else if c = '*' then l.readNode fun c =>
    (Property.anchorName c.next).map fun (name, c) => (.alias name, c)
  else if c = '&' then l.readNode fun c =>
    (Property.anchorName c.next).map fun (name, c) => (.anchor name, c)
  else if c = '!' then l.readNode fun c =>
    (Property.tag c).map fun (tag, c) => (.tag tag, c)
  else if c = '|' && !l.inFlow then l.readBlockScalar false
  else if c = '>' && !l.inFlow then l.readBlockScalar true
  else if c = '\'' || c = '"' then l.readNode fun c =>
    (QuotedScalar.read c).map fun (text, c) => (.scalar text false, c)
  else if beginsPlain l.inFlow c next then l.readPlain
  else .error tokenFault

/-- The next token, with those that it brings about; `none` at the end of the text. -/
def step (l : Lexer) : Except Fault (Lexer × Bool) := do
  let l := skipGaps (l.cursor.rest.length + 1) l.skipMark
  let l := (← l.dropStaleKeys).unwind l.column
  match l.cursor.peek with
  | none => return (← (l.unwind (-1)).dropKey, true)
  | some c => return (← l.readToken c, false)

/-- All tokens, and the fault at which reading stopped, if it did. -/
def run : Nat → Lexer → List Token × Option Fault
  | 0, l => (l.tokens.reverse, none)
  | fuel + 1, l =>
    match l.step with
    | .error fault => (l.tokens.reverse, some fault)
    | .ok (l, true) => (l.tokens.reverse, none)
    | .ok (l, false) => run fuel l

end Lexer

/-- The tokens of a text, and the fault at which reading stopped, if it did. -/
def tokens (text : List Char) : List Token × Option Fault :=
  if text.all isAdmitted then Lexer.run (text.length + 1) { cursor := { rest := text } }
  else ([], some (.malformedYaml .character))

end CodeReview.Yaml
