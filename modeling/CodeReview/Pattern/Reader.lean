/-
Reading patterns from their usual notation: characters by their codes and names, sets, counted and
possessive repetitions, groups with and without a name, back references, look-around of fixed width,
conditions, comments and flags. The reader keeps the bounds on what each part can match, since a look
behind needs a fixed width.
-/
import CodeReview.Number.Integer
import CodeReview.Number.Power
import CodeReview.Pattern.Basic
import CodeReview.Text.Identifier
import CodeReview.Text.Name

namespace CodeReview.Pattern

/-! ## Symbols -/

/-- A symbol of a source: a character, or a backslash with the character after it. A backslash that
ends the source spoils the symbol before it: that symbol can be looked at but not taken, so that a
source with one is never read to its end. -/
inductive Symbol where
  | plain (c : Char)
  | escaped (c : Char)
  /-- A spoiled symbol that begins with the character. -/
  | spoiled (c : Char)
  deriving DecidableEq, Repr

/-- Why a source is no pattern. -/
inductive ReadError where
  | malformed
  /-- A number of repetitions beyond the largest. -/
  | countTooLarge
  /-- A number of more digits than are ever read. -/
  | numberTooLong
  /-- A code point beyond all numbers of characters. -/
  | codeTooLarge
  /-- Global flags that contradict each other. -/
  | contradictoryFlags
  | nestedTooDeep
  deriving DecidableEq, Repr

/-- The symbols of a source; the one before a backslash at the very end is spoiled, and so is that
backslash where it is alone. -/
def symbols : List Char → List Symbol
  | [] => []
  | ['\\'] => [.spoiled '\\']
  | '\\' :: c :: rest => if rest = ['\\'] then [.spoiled '\\'] else .escaped c :: symbols rest
  | c :: rest => if rest = ['\\'] then [.spoiled c] else .plain c :: symbols rest

/-! ## State -/

/-- The flags in force. -/
structure Flags where
  ignoreCase : Bool := false
  multiline : Bool := false
  dotAll : Bool := false
  verbose : Bool := false
  ascii : Bool := false
  unicode : Bool := false
  template : Bool := false
  deriving DecidableEq, Repr

def Flags.letters (f : Flags) : Letters :=
  if !f.ignoreCase then .exact else if f.ascii then .asciiFold else .fold

/-- The flags of a group that turns some on and some off. -/
def Flags.adjust (f added removed : Flags) : Flags where
  ignoreCase := (f.ignoreCase || added.ignoreCase) && !removed.ignoreCase
  multiline := (f.multiline || added.multiline) && !removed.multiline
  dotAll := (f.dotAll || added.dotAll) && !removed.dotAll
  verbose := (f.verbose || added.verbose) && !removed.verbose
  ascii := if added.ascii || added.unicode then added.ascii else f.ascii
  unicode := if added.ascii || added.unicode then added.unicode else f.unicode
  template := f.template

def Flags.union (f g : Flags) : Flags where
  ignoreCase := f.ignoreCase || g.ignoreCase
  multiline := f.multiline || g.multiline
  dotAll := f.dotAll || g.dotAll
  verbose := f.verbose || g.verbose
  ascii := f.ascii || g.ascii
  unicode := f.unicode || g.unicode
  template := f.template || g.template

/-- Some flag is in both. -/
def Flags.meets (f g : Flags) : Bool :=
  (f.ignoreCase && g.ignoreCase) || (f.multiline && g.multiline) || (f.dotAll && g.dotAll) ||
    (f.verbose && g.verbose)

/-- The flag that a letter stands for. -/
def flag? : Char → Option Flags
  | 'i' => some { ignoreCase := true }
  | 'm' => some { multiline := true }
  | 's' => some { dotAll := true }
  | 'x' => some { verbose := true }
  | 'a' => some { ascii := true }
  | 'u' => some { unicode := true }
  | 't' => some { template := true }
  | _ => none

/-- How many characters a part can match, at least and at most. -/
structure Width where
  least : Nat
  most : Nat
  deriving DecidableEq, Repr

/-- No width is counted beyond this. -/
def Width.limit : Nat := twoTo 64

def Width.cap (w : Width) : Width := ⟨min w.least limit, min w.most limit⟩

def Width.add (v w : Width) : Width := cap ⟨v.least + w.least, v.most + w.most⟩

def Width.either (v w : Width) : Width := ⟨min v.least w.least, max v.most w.most⟩

def Width.times (w : Width) (least : Nat) (most : Option Nat) : Width :=
  match most with
  | some most => cap ⟨w.least * least, w.most * most⟩
  | none => cap ⟨w.least * least, if w.most = 0 then 0 else limit⟩

/-- A part of a sequence. Neither an anchor nor a repetition can be repeated. -/
inductive PartKind where
  | plain
  | anchor
  | repetition
  deriving DecidableEq, Repr

structure Part where
  pattern : Pattern
  width : Width
  kind : PartKind := .plain
  deriving Repr

def Part.nothing : Part := ⟨.empty, ⟨0, 0⟩, .plain⟩

/-- The parts one after the other. -/
def Part.join (parts : List Part) : Part :=
  ⟨sequence (parts.map (·.pattern)), parts.foldl (fun w p => w.add p.width) ⟨0, 0⟩, .plain⟩

/-- What has been read so far: the symbols left, the width of each group (`none` while it is open),
the group of each name, the number of groups before the outermost look behind that is open, the
groups that conditions refer to, whether anything is repeated, and whether some look behind has no
fixed width. -/
structure ReadState where
  rest : List Symbol
  globalFlags : Flags := {}
  groups : List (Option Width) := [none]
  names : List (String × Nat) := []
  behindFrom : Option Nat := none
  conditions : List Nat := []
  repeats : Bool := false
  looksUnevenly : Bool := false

abbrev Reader := StateT ReadState (Except ReadError)

namespace Reader

def fail {α : Type} : Reader α := throw .malformed

/-- The next symbol, not yet taken. -/
def peek : Reader (Option Symbol) := return (← get).rest.head?

/-- Takes the next symbol. -/
def next : Reader (Option Symbol) := do
  let s ← get
  match s.rest with
  | [] => return none
  | .spoiled _ :: _ => fail
  | symbol :: rest => set { s with rest }; return some symbol

/-- Takes the next symbol if it is the character. -/
def accept (c : Char) : Reader Bool := do
  if (← peek) = some (.plain c) then discard next; return true else return false

def expect (c : Char) : Reader Unit := do
  if !(← accept c) then fail

/-- Takes characters that pass the test, at most `limit` of them. -/
def takeWhile (test : Char → Bool) : Nat → Reader (List Char)
  | 0 => return []
  | limit + 1 => do
    match ← peek with
    | some (.plain c) =>
      if test c then
        discard next
        return c :: (← takeWhile test limit)
      else return []
    | _ => return []

/-- The characters up to the terminator, which is taken too; there must be one at least. -/
def takeUntil (terminator : Char) : Nat → List Char → Reader (List Char)
  | 0, _ => fail
  | fuel + 1, taken => do
    match ← next with
    | none | some (.spoiled _) => fail
    | some (.plain c) =>
      if c = terminator then if taken.isEmpty then fail else return taken.reverse
      else takeUntil terminator fuel (c :: taken)
    | some (.escaped c) => takeUntil terminator fuel (c :: '\\' :: taken)

/-- The number of symbols left. -/
def remaining : Reader Nat := return (← get).rest.length

/-! ## Groups -/

def groupCount : Reader Nat := return (← get).groups.length

/-- The width of a group that has been closed. -/
def closedGroup? (index : Nat) : Reader (Option Width) :=
  return ((← get).groups[index]?).join

def openGroup (name : Option String) : Reader Nat := do
  let s ← get
  let index := s.groups.length
  match name with
  | none => set { s with groups := s.groups ++ [none] }
  | some name =>
    if (s.names.lookup name).isSome then fail
    set { s with groups := s.groups ++ [none], names := (name, index) :: s.names }
  return index

def closeGroup (index : Nat) (width : Width) : Reader Unit :=
  modify fun s => { s with groups := s.groups.set index (some width) }

/-- Inside a look behind only groups closed before it can be referred to. -/
def checkBehind (index : Nat) : Reader Unit := do
  match (← get).behindFrom with
  | none => return
  | some first =>
    if (← closedGroup? index).isNone then fail
    if first ≤ index then fail

end Reader

open Reader

/-! ## Escapes -/

def isOctal (c : Char) : Bool := '0' ≤ c && c ≤ '7'

/-- Exactly `count` digits in base sixteen. -/
def readHex (count : Nat) : Reader Nat := do
  let digits ← takeWhile Text.isHexDigit count
  if digits.length = count then return Text.numberIn 16 digits else fail

/-- The character that an escape letter stands for. -/
def controlCode? : Char → Option Nat
  | 'a' => some 7
  | 'b' => some 8
  | 'f' => some 12
  | 'n' => some 10
  | 'r' => some 13
  | 't' => some 9
  | 'v' => some 11
  | '\\' => some 92
  | _ => none

/-- The named class that an escape letter stands for. -/
def classItem? (ascii : Bool) : Char → Option SetItem
  | 'd' => some (.named .digit false ascii)
  | 'D' => some (.named .digit true ascii)
  | 's' => some (.named .blank false ascii)
  | 'S' => some (.named .blank true ascii)
  | 'w' => some (.named .word false ascii)
  | 'W' => some (.named .word true ascii)
  | _ => none

/-- The code point of the character that is named between braces. -/
def readNamed : Reader Nat := do
  expect '{'
  let name ← takeUntil '}' ((← remaining) + 1) []
  match Text.codeNamed? name with
  | none => fail
  | some n => return n

/-- The code point of an escape that stands for a character, inside a set or outside. Numbers of more
than 31 bits are no numbers of characters at all. -/
def readCode (c : Char) : Reader Nat := do
  if c = 'x' then readHex 2
  else if c = 'u' then readHex 4
  else if c = 'U' then
    let n ← readHex 8
    if twoTo 31 ≤ n then throw .codeTooLarge
    if 0x110000 ≤ n then fail else return n
  else if c = 'N' then readNamed
  else if c.isAlpha then fail
  else return Text.codePoint c

/-- An escape inside a set. -/
def readSetEscape (ascii : Bool) (c : Char) : Reader SetItem := do
  match controlCode? c with
  | some n => return .code n
  | none =>
    match classItem? ascii c with
    | some item => return item
    | none =>
      if isOctal c then
        let n := Text.numberIn 8 (c :: (← takeWhile isOctal 2))
        if 0o377 < n then fail else return .code n
      else if c.isDigit then fail
      else return .code (← readCode c)

def single (letters : Letters) (n : Nat) : Part :=
  ⟨.char (.set false letters [.code n]), ⟨1, 1⟩, .plain⟩

def place (a : Anchor) : Part := ⟨.anchor a, ⟨0, 0⟩, .anchor⟩

/-- A reference to a group by number. -/
def readRecall (flags : Flags) (index : Nat) : Reader Part := do
  if (← groupCount) ≤ index then fail
  match ← closedGroup? index with
  | none => fail
  | some width =>
    checkBehind index
    return ⟨.recall index flags.letters, width, .plain⟩

/-- The number after a backslash: a character by its octal number, or a group. -/
def readNumbered (flags : Flags) (c : Char) : Reader Part := do
  if c = '0' then
    return single flags.letters (Text.numberIn 8 (c :: (← takeWhile isOctal 2)))
  else
    match ← peek with
    | some (.plain d) =>
      if d.isDigit then
        discard next
        match ← peek with
        | some (.plain e) =>
          if isOctal c && isOctal d && isOctal e then
            discard next
            let n := Text.numberIn 8 [c, d, e]
            if 0o377 < n then fail else return single flags.letters n
          else readRecall flags (Text.numberIn 10 [c, d])
        | _ => readRecall flags (Text.numberIn 10 [c, d])
      else readRecall flags (Text.numberIn 10 [c])
    | _ => readRecall flags (Text.numberIn 10 [c])

/-- An escape outside a set. -/
def readEscape (flags : Flags) (c : Char) : Reader Part := do
  if c = 'A' then return place .textStart
  else if c = 'Z' then return place .textEnd
  else if c = 'b' then return place (.wordBoundary flags.ascii)
  else if c = 'B' then return place (.noWordBoundary flags.ascii)
  else match classItem? flags.ascii c with
  | some item => return ⟨.char (.set false flags.letters [item]), ⟨1, 1⟩, .plain⟩
  | none =>
    match controlCode? c with
    | some n => return single flags.letters n
    | none => if c.isDigit then readNumbered flags c else return single flags.letters (← readCode c)

/-! ## Sets -/

/-- One end of a range, or a member of its own. -/
def readSetItem (ascii : Bool) (symbol : Symbol) : Reader SetItem :=
  match symbol with
  | .plain c => return .code (Text.codePoint c)
  | .escaped c => readSetEscape ascii c
  | .spoiled _ => fail

/-- The members of a set up to the closing bracket, `items` being those read before, in reverse. -/
def readSetItems (ascii : Bool) : Nat → List SetItem → Reader (List SetItem)
  | 0, _ => fail
  | fuel + 1, items => do
    match ← next with
    | none => fail
    | some symbol =>
      if symbol = .plain ']' && !items.isEmpty then return items.reverse
      else
        let first ← readSetItem ascii symbol
        if ← accept '-' then
          match ← next with
          | none => fail
          | some symbol =>
            if symbol = .plain ']' then return (.code 45 :: first :: items).reverse
            else
              match first, ← readSetItem ascii symbol with
              | .code low, .code high =>
                if high < low then fail
                else readSetItems ascii fuel (.range low high :: items)
              | _, _ => fail
        else readSetItems ascii fuel (first :: items)

/-- A set whose opening bracket has been taken. -/
def readSet (flags : Flags) : Reader Part := do
  let negated ← accept '^'
  let items ← readSetItems flags.ascii ((← remaining) + 1) []
  return ⟨.char (.set negated flags.letters items), ⟨1, 1⟩, .plain⟩

/-! ## Repetitions -/

/-- No repetition is counted up to this number. -/
def maxCount : Nat := 4294967295

/-- The bound that digits spell, none without digits. -/
def readBound (digits : List Char) : Reader (Option Nat) := do
  if digits.isEmpty then return none
  if Integer.maxDigits < digits.length then throw .numberTooLong
  let n := Integer.ofDigits digits
  if maxCount ≤ n then throw .countTooLarge else return some n

/-- The bounds between braces, the opening one already taken; `none` where the brace stands for
itself. -/
def readBounds? : Reader (Option (Nat × Option Nat)) := do
  if (← peek) = some (.plain '}') then return none
  let start ← get
  let fuel ← remaining
  let low ← takeWhile Char.isDigit fuel
  let high ← if ← accept ',' then takeWhile Char.isDigit fuel else pure low
  if ← accept '}' then
    let least ← readBound low
    let most ← readBound high
    match most with
    | some most => if most < least.getD 0 then fail
    | none => pure ()
    return some (least.getD 0, most)
  else
    set start
    return none

/-- A part repeated. A single character is repeated without looking at its inside. -/
def repeatPart (part : Part) (least : Nat) (most : Option Nat) (kind : Repetition) : Part :=
  let pattern := match part.pattern with
    | .char test => .chars test least most kind
    | p => .repeated p least most kind
  ⟨pattern, part.width.times least most, .repetition⟩

/-- The mark after a repetition that says which numbers are tried first. -/
def readKind : Reader Repetition := do
  if ← accept '?' then return .reluctant
  if ← accept '+' then return .possessive
  return .greedy

/-- The last part repeated; `reversed` holds the parts read before, the last one first. -/
def readRepetition (reversed : List Part) (least : Nat) (most : Option Nat) :
    Reader (List Part) := do
  match reversed with
  | [] => fail
  | last :: before =>
    if last.kind ≠ .plain then fail
    modify fun s => { s with repeats := true }
    return repeatPart last least most (← readKind) :: before

/-! ## Groups -/

/-- No group has this number or a larger one. -/
def maxGroup : Nat := 1073741823

/-- The flags from the letter `c` on. A closing parenthesis makes them global and gives `none`;
otherwise they are those to turn on and those to turn off, up to the colon. -/
def readFlags (c : Char) : Reader (Option (Flags × Flags)) := do
  let (added, stop) ← if c = '-' then pure (({} : Flags), c) else
    readAdded c {} ((← remaining) + 1)
  if stop = ')' then
    modify fun s => { s with globalFlags := s.globalFlags.union added }
    return none
  if added.template then fail
  let removed ← if stop = '-' then readRemoved {} ((← remaining) + 1) else pure {}
  if removed.template || added.meets removed then fail
  return some (added, removed)
where
  /-- The flags up to a character that ends them. -/
  readAdded (c : Char) (added : Flags) : Nat → Reader (Flags × Char)
    | 0 => fail
    | fuel + 1 => do
      match flag? c with
      | none => fail
      | some f =>
        let added := added.union f
        if added.ascii && added.unicode then fail
        match ← next with
        | some (.plain d) =>
          if d = ')' || d = '-' || d = ':' then return (added, d) else readAdded d added fuel
        | _ => fail
  /-- The flags up to the colon, one at least. -/
  readRemoved (removed : Flags) : Nat → Reader Flags
    | 0 => fail
    | fuel + 1 => do
      match ← next with
      | some (.plain d) =>
        match flag? d with
        | none => fail
        | some f =>
          if f.ascii || f.unicode then fail
          let removed := removed.union f
          if ← accept ':' then return removed else readRemoved removed fuel
      | _ => fail

/-- A comment up to its closing parenthesis. -/
def skipComment : Nat → Reader Unit
  | 0 => fail
  | fuel + 1 => do
    match ← next with
    | none => fail
    | some symbol => if symbol = .plain ')' then return else skipComment fuel

/-- A comment up to the end of the line or of the source. -/
def skipLineComment : Nat → Reader Unit
  | 0 => return
  | fuel + 1 => do
    match ← next with
    | none => return
    | some symbol => if symbol = .plain '\n' then return else skipLineComment fuel

/-- The group that a condition names or numbers. -/
def readConditionGroup : Reader Nat := do
  let name ← takeUntil ')' ((← remaining) + 1) []
  if Text.isIdentifier name then
    match (← get).names.lookup (String.ofList name) with
    | none => fail
    | some index => checkBehind index; return index
  else
    match Integer.ofText? name with
    | none => fail
    | some n =>
      if n ≤ 0 || maxGroup ≤ n then fail
      let index := n.toNat
      modify fun s => { s with conditions := index :: s.conditions }
      checkBehind index
      return index

/-- The name of a group up to the terminator. -/
def readName (terminator : Char) : Reader String := do
  let name ← takeUntil terminator ((← remaining) + 1) []
  if Text.isIdentifier name then return String.ofList name else fail

/-- A reference to a group by name. -/
def readNamedRecall (flags : Flags) : Reader Part := do
  let name ← readName ')'
  match (← get).names.lookup name with
  | none => fail
  | some index => readRecall flags index

/-- What a parenthesis opens. -/
inductive Opening where
  /-- A group with or without memory, and the flags in force inside. -/
  | group (captures : Bool) (name : Option String) (isAtomic : Bool) (flags : Flags)
  | look (ahead negated : Bool)
  | condition (index : Nat)
  /-- A part that has been read whole. -/
  | part (part : Part)
  /-- A comment. -/
  | nothing
  /-- Flags for the whole pattern. -/
  | globalFlags

/-- What follows an opening parenthesis, up to the contents. -/
def readOpening (flags : Flags) : Reader Opening := do
  if !(← accept '?') then return .group true none false flags
  match ← next with
  | some (.plain 'P') =>
    if ← accept '<' then return .group true (some (← readName '>')) false flags
    if ← accept '=' then return .part (← readNamedRecall flags)
    fail
  | some (.plain ':') => return .group false none false flags
  | some (.plain '#') => skipComment ((← remaining) + 1); return .nothing
  | some (.plain '=') => return .look true false
  | some (.plain '!') => return .look true true
  | some (.plain '<') =>
    match ← next with
    | some (.plain '=') => return .look false false
    | some (.plain '!') => return .look false true
    | _ => fail
  | some (.plain '(') => return .condition (← readConditionGroup)
  | some (.plain '>') => return .group false none true flags
  | some (.plain c) =>
    if c = '-' || (flag? c).isSome then
      match ← readFlags c with
      | none => return .globalFlags
      | some (added, removed) => return .group false none false (flags.adjust added removed)
    else fail
  | _ => fail

/-- A look around with the given contents. One behind needs a fixed width, but this is told only when
the whole source has been read. -/
def lookPart (ahead negated : Bool) (contents : Part) : Reader Part := do
  if negated && contents.pattern = .empty then return ⟨.never, ⟨0, 0⟩, .plain⟩
  if ahead then return ⟨.ahead negated contents.pattern, ⟨0, 0⟩, .plain⟩
  if contents.width.least ≠ contents.width.most || maxCount < contents.width.least then
    modify fun s => { s with looksUnevenly := true }
  return ⟨.behind negated contents.width.least contents.pattern, ⟨0, 0⟩, .plain⟩

/-! ## Sequences and alternatives -/

/-- Groups may be nested this deep. A condition takes half as much of the stack as a group. -/
def maxNesting : Nat := 470

/-- Refuses what is nested too deep, `depth` being twice the number of groups around it and one more for
each condition. -/
def checkDepth (depth : Nat) : Reader Unit := do
  if 2 * maxNesting < depth then throw .nestedTooDeep

def isVerboseSpace (c : Char) : Bool :=
  c = ' ' || c = '\t' || c = '\n' || c = '\r' || c = '\x0b' || c = '\x0c'

mutual

/-- Alternatives up to a closing parenthesis or the end. `depth` counts the groups around them, as
`checkDepth` has it; the alternatives at the top follow the global flags as they become known. -/
def readAlternatives : Nat → Nat → Flags → List Part → Reader Part
  | 0, _, _, _ => throw .nestedTooDeep
  | fuel + 1, depth, flags, before => do
    checkDepth depth
    let flags ← if depth = 0 then pure (← get).globalFlags else pure flags
    let part ← readSequence fuel depth flags (depth = 0 && before.isEmpty) []
    let parts := part :: before
    if ← accept '|' then readAlternatives fuel depth flags parts
    else
      match parts.reverse with
      | [] => return .nothing
      | [only] => return only
      | first :: others =>
        return ⟨oneOf ((first :: others).map (·.pattern)),
          others.foldl (fun w p => w.either p.width) first.width, .plain⟩

/-- Parts up to a bar, a closing parenthesis or the end, `reversed` being those read before. -/
def readSequence : Nat → Nat → Flags → Bool → List Part → Reader Part
  | 0, _, _, _, _ => throw .nestedTooDeep
  | fuel + 1, depth, flags, isFirst, reversed => do
    match ← peek with
    | none => return .join reversed.reverse
    | some (.spoiled c) => if c = ')' then return .join reversed.reverse else fail
    | some (.escaped c) =>
      discard next
      readSequence fuel depth flags isFirst ((← readEscape flags c) :: reversed)
    | some (.plain c) =>
      if c = '|' || c = ')' then return .join reversed.reverse
      discard next
      if flags.verbose && isVerboseSpace c then readSequence fuel depth flags isFirst reversed
      else if flags.verbose && c = '#' then
        skipLineComment ((← remaining) + 1)
        readSequence fuel depth flags isFirst reversed
      else if c = '[' then
        readSequence fuel depth flags isFirst ((← readSet flags) :: reversed)
      else if c = '*' then
        readSequence fuel depth flags isFirst (← readRepetition reversed 0 none)
      else if c = '+' then
        readSequence fuel depth flags isFirst (← readRepetition reversed 1 none)
      else if c = '?' then
        readSequence fuel depth flags isFirst (← readRepetition reversed 0 (some 1))
      else if c = '{' then
        match ← readBounds? with
        | some (least, most) =>
          readSequence fuel depth flags isFirst (← readRepetition reversed least most)
        | none =>
          readSequence fuel depth flags isFirst (single flags.letters (Text.codePoint c) :: reversed)
      else if c = '.' then
        readSequence fuel depth flags isFirst
          (⟨.char (.any flags.dotAll), ⟨1, 1⟩, .plain⟩ :: reversed)
      else if c = '^' then
        readSequence fuel depth flags isFirst
          (place (if flags.multiline then .lineStart else .textStart) :: reversed)
      else if c = '$' then
        readSequence fuel depth flags isFirst
          (place (if flags.multiline then .lineEnd else .lastLineEnd) :: reversed)
      else if c = '(' then
        match ← readOpening flags with
        | .nothing => readSequence fuel depth flags isFirst reversed
        | .part part => readSequence fuel depth flags isFirst (part :: reversed)
        | .globalFlags =>
          if !isFirst || !reversed.isEmpty then fail
          readSequence fuel depth (← get).globalFlags isFirst reversed
        | .group captures name isAtomic inside =>
          let index ← if captures then pure (some (← openGroup name)) else pure none
          let contents ← readAlternatives fuel (depth + 2) inside []
          expect ')'
          match index with
          | some index =>
            closeGroup index contents.width
            readSequence fuel depth flags isFirst
              (⟨.capture index contents.pattern, contents.width, .plain⟩ :: reversed)
          | none =>
            let pattern := if isAtomic then .atomic contents.pattern else contents.pattern
            readSequence fuel depth flags isFirst
              (⟨pattern, contents.width, .plain⟩ :: reversed)
        | .look isAhead negated =>
          let outer := (← get).behindFrom
          if !isAhead && outer.isNone then
            modify fun s => { s with behindFrom := some s.groups.length }
          let contents ← readAlternatives fuel (depth + 2) flags []
          if !isAhead then modify fun s => { s with behindFrom := outer }
          expect ')'
          readSequence fuel depth flags isFirst ((← lookPart isAhead negated contents) :: reversed)
        | .condition index =>
          checkDepth (depth + 1)
          let yes ← readSequence fuel (depth + 1) flags false []
          let no ← if ← accept '|' then
              let no ← readSequence fuel (depth + 1) flags false []
              if (← peek) = some (.plain '|') then fail
              pure no
            else pure .nothing
          expect ')'
          readSequence fuel depth flags isFirst
            (⟨.ifCaptured index yes.pattern no.pattern, yes.width.either no.width, .plain⟩
              :: reversed)
      else readSequence fuel depth flags isFirst (single flags.letters (Text.codePoint c) :: reversed)

end

/-- A whole source. -/
def readAll : Reader Pattern := do
  let part ← readAlternatives (3 * (← remaining) + 8) 0 {} []
  let s ← get
  if s.globalFlags.ascii && s.globalFlags.unicode then throw .contradictoryFlags
  if !s.rest.isEmpty || s.conditions.any (s.groups.length ≤ ·) then fail
  if s.looksUnevenly || (s.globalFlags.template && s.repeats) then fail
  return part.pattern

/-- The pattern that a source spells. -/
def read (source : List Char) : Except ReadError Pattern :=
  (readAll.run { rest := symbols source }).map (·.1)

end CodeReview.Pattern
