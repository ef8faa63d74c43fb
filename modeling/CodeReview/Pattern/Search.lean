/-
Matching. `Pattern.run` follows a pattern from a place in a text and hands each way of matching it, in
order of preference, to what is to follow; the first way that leads to an end is the match. Searching
tries the places of a text from left to right.
-/
import CodeReview.Pattern.Basic

namespace CodeReview.Pattern

/-! ## Places in a text -/

/-- A place in a text, with what has been remembered on the way there. The characters before it are
nearest first. -/
structure Cursor where
  before : List Char
  rest : List Char
  position : Nat
  captures : List (Nat × List Char)
  deriving Repr

/-- The beginning of a text. -/
def Cursor.start (text : List Char) : Cursor := ⟨[], text, 0, []⟩

def Cursor.forward (c : Cursor) : Cursor :=
  match c.rest with
  | [] => c
  | x :: rest => { c with before := x :: c.before, rest, position := c.position + 1 }

def Cursor.back (c : Cursor) : Cursor :=
  match c.before with
  | [] => c
  | x :: before => { c with before, rest := x :: c.rest, position := c.position - 1 }

/-- The place `width` characters before, if there is one. -/
def Cursor.backBy : Nat → Cursor → Option Cursor
  | 0, c => some c
  | width + 1, c => if c.before.isEmpty then none else backBy width c.back

/-- The text remembered under `index`. -/
def Cursor.captured? (c : Cursor) (index : Nat) : Option (List Char) := c.captures.lookup index

/-- Remembers the last `width` characters under `index`. -/
def Cursor.remember (c : Cursor) (index width : Nat) : Cursor :=
  { c with captures := (index, (c.before.take width).reverse) :: c.captures }

/-- A word character stands on exactly one side. -/
def Cursor.atWordEdge (c : Cursor) (asciiOnly : Bool) : Bool :=
  let isWord := ClassName.word.holds asciiOnly
  (c.before.head?.any isWord) != (c.rest.head?.any isWord)

def Anchor.holds (c : Cursor) : Anchor → Bool
  | .textStart => c.before.isEmpty
  | .lineStart => c.before.isEmpty || c.before.head? == some '\n'
  | .textEnd => c.rest.isEmpty
  | .lastLineEnd => c.rest.isEmpty || c.rest == ['\n']
  | .lineEnd => c.rest.isEmpty || c.rest.head? == some '\n'
  | .wordBoundary asciiOnly => c.atWordEdge asciiOnly
  | .noWordBoundary asciiOnly =>
    !(c.before.isEmpty && c.rest.isEmpty) && !c.atWordEdge asciiOnly

/-! ## Repeated characters -/

/-- Moves over characters that pass the test, at most `most` of them, and counts them. -/
def takeRun (test : CharTest) (most : Option Nat) (captures : List (Nat × List Char)) :
    Nat → List Char → Nat → List Char → Nat × Cursor
  | count, before, position, [] => (count, ⟨before, [], position, captures⟩)
  | count, before, position, x :: rest =>
    if most != some count && test.holds x then
      takeRun test most captures (count + 1) (x :: before) (position + 1) rest
    else (count, ⟨before, x :: rest, position, captures⟩)

/-- Tries what follows here, then up to `extra` characters further left. -/
def giveBack (next : Cursor → Option Cursor) : Nat → Cursor → Option Cursor
  | 0, c => next c
  | extra + 1, c =>
    match next c with
    | some found => some found
    | none => giveBack next extra c.back

/-- Tries what follows here, then further right over characters that pass the test, at most `more` of
them. -/
def takeMore (test : CharTest) (next : Cursor → Option Cursor)
    (captures : List (Nat × List Char)) :
    Option Nat → List Char → Nat → List Char → Option Cursor
  | more, before, position, rest =>
    match next ⟨before, rest, position, captures⟩ with
    | some found => some found
    | none =>
      match rest with
      | [] => none
      | x :: rest =>
        if more != some 0 && test.holds x then
          takeMore test next captures (more.map (· - 1)) (x :: before) (position + 1) rest
        else none
  termination_by _ _ _ rest => rest.length

/-- At least `least` and at most `most` characters that pass the test. -/
def runChars (test : CharTest) (least : Nat) (most : Option Nat) (kind : Repetition) (c : Cursor)
    (next : Cursor → Option Cursor) : Option Cursor :=
  match kind with
  | .greedy =>
    let (count, stop) := takeRun test most c.captures 0 c.before c.position c.rest
    if count < least then none else giveBack next (count - least) stop
  | .possessive =>
    let (count, stop) := takeRun test most c.captures 0 c.before c.position c.rest
    if count < least then none else next stop
  | .reluctant =>
    let (count, stop) := takeRun test (some least) c.captures 0 c.before c.position c.rest
    if count < least then none
    else takeMore test next c.captures (most.map (· - least)) stop.before stop.position stop.rest

/-! ## Repeated patterns -/

/-- One pattern followed by what comes after it. -/
abbrev Runner := Cursor → (Cursor → Option Cursor) → Option Cursor

/-- As many repetitions as there are, then fewer. A repetition that begins where the one before it
began is not tried. The fuel bounds the repetitions. -/
def runGreedy (body : Runner) (least : Nat) (most : Option Nat) (next : Cursor → Option Cursor) :
    Nat → Nat → Option Nat → Cursor → Option Cursor
  | 0, _, _, _ => none
  | fuel + 1, count, last, c =>
    if count < least then
      body c (runGreedy body least most next fuel (count + 1) last)
    else if most != some count && last != some c.position then
      match body c (runGreedy body least most next fuel (count + 1) (some c.position)) with
      | some found => some found
      | none => next c
    else next c

/-- As few repetitions as will do, then more. -/
def runReluctant (body : Runner) (least : Nat) (most : Option Nat)
    (next : Cursor → Option Cursor) : Nat → Nat → Option Nat → Cursor → Option Cursor
  | 0, _, _, _ => none
  | fuel + 1, count, last, c =>
    if count < least then
      body c (runReluctant body least most next fuel (count + 1) last)
    else
      match next c with
      | some found => some found
      | none =>
        if most != some count && last != some c.position then
          body c (runReluctant body least most next fuel (count + 1) (some c.position))
        else none

/-- As many repetitions as there are, each matched in its first way only. -/
def runPossessive (body : Runner) (least : Nat) (most : Option Nat) :
    Nat → Nat → Option Nat → Cursor → Option Cursor
  | 0, _, _, _ => none
  | fuel + 1, count, last, c =>
    if count < least then
      match body c some with
      | some after => runPossessive body least most fuel (count + 1) last after
      | none => none
    else if most != some count && last != some c.position then
      match body c some with
      | some after => runPossessive body least most fuel (count + 1) (some c.position) after
      | none => some c
    else some c

/-! ## Patterns -/

/-- Moves over the given characters. -/
def runText (letters : Letters) : List Char → Cursor → Option Cursor
  | [], c => some c
  | x :: text, c =>
    match c.rest with
    | [] => none
    | y :: _ => if letters.agree (Text.codePoint x) y then runText letters text c.forward else none

/-- The first way to match the pattern from a place that what follows accepts. `length` is the length
of the whole text. -/
def run (length : Nat) : Pattern → Runner
  | .empty, c, next => next c
  | .never, _, _ => none
  | .char test, c, next =>
    match c.rest with
    | [] => none
    | x :: rest =>
      if test.holds x then
        next { c with before := x :: c.before, rest, position := c.position + 1 }
      else none
  | .seq p q, c, next => p.run length c fun after => q.run length after next
  | .alt p q, c, next =>
    match p.run length c next with
    | some found => some found
    | none => q.run length c next
  | .chars test least most kind, c, next => runChars test least most kind c next
  | .repeated p least most .greedy, c, next =>
    runGreedy (p.run length) least most next (least + length + 3) 0 none c
  | .repeated p least most .reluctant, c, next =>
    runReluctant (p.run length) least most next (least + length + 3) 0 none c
  | .repeated p least most .possessive, c, next =>
    match runPossessive (p.run length) least most (least + length + 3) 0 none c with
    | some after => next after
    | none => none
  | .capture index p, c, next =>
    p.run length c fun after => next (after.remember index (after.position - c.position))
  | .atomic p, c, next =>
    match p.run length c some with
    | some after => next after
    | none => none
  | .ahead negated p, c, next =>
    match p.run length c some with
    | some after => if negated then none else next { c with captures := after.captures }
    | none => if negated then next c else none
  | .behind negated width p, c, next =>
    match (c.backBy width).bind fun start => p.run length start some with
    | some after => if negated then none else next { c with captures := after.captures }
    | none => if negated then next c else none
  | .recall index letters, c, next =>
    match (c.captured? index).bind fun text => runText letters text c with
    | some after => next after
    | none => none
  | .ifCaptured index yes no, c, next =>
    match c.captured? index with
    | some _ => yes.run length c next
    | none => no.run length c next
  | .anchor place, c, next => if Anchor.holds c place then next c else none

/-! ## Searching -/

/-- A match: the place where it begins and the place where it ends. -/
structure Found where
  start : Cursor
  stop : Cursor
  deriving Repr

/-- The matched text. -/
def Found.text (f : Found) : List Char :=
  (f.stop.before.take (f.stop.position - f.start.position)).reverse

/-- The text remembered under `index`, nothing if there is none. -/
def Found.group (f : Found) (index : Nat) : List Char := (f.stop.captured? index).getD []

/-- The match that begins at a place. -/
def matchAt? (p : Pattern) (length : Nat) (c : Cursor) : Option Found :=
  (p.run length c some).map fun stop => ⟨c, stop⟩

/-- The first match at or after a place, given by what stands before and after it. -/
def searchFrom (p : Pattern) (length : Nat) : List Char → Nat → List Char → Option Found
  | before, position, [] => p.matchAt? length ⟨before, [], position, []⟩
  | before, position, x :: rest =>
    match p.matchAt? length ⟨before, x :: rest, position, []⟩ with
    | some found => some found
    | none => searchFrom p length (x :: before) (position + 1) rest

/-- The first match in a text. -/
def search (p : Pattern) (text : List Char) : Option Found :=
  p.searchFrom text.length [] 0 text

/-- The match at the beginning of a text. -/
def matchStart (p : Pattern) (text : List Char) : Option Found :=
  p.matchAt? text.length (.start text)

/-- The pattern matches somewhere in the text. -/
def occursIn (p : Pattern) (text : List Char) : Bool := (p.search text).isSome

/-- The matches from a place on, from left to right, none overlapping another. The fuel bounds their
number; a match of nothing is passed over. -/
def allFrom (p : Pattern) (length : Nat) : Nat → Cursor → List Found
  | 0, _ => []
  | fuel + 1, c =>
    match p.searchFrom length c.before c.position c.rest with
    | none => []
    | some found =>
      if found.stop.position = found.start.position then
        match found.stop.rest with
        | [] => []
        | _ :: _ => allFrom p length fuel found.stop.forward
      else found :: allFrom p length fuel found.stop

/-- The matches in a text, from left to right, none overlapping another. -/
def all (p : Pattern) (text : List Char) : List Found :=
  p.allFrom text.length (text.length + 1) (.start text)

/-- The text with the first match replaced. -/
def replaceFirst (p : Pattern) (change : Found → List Char) (text : List Char) : List Char :=
  match p.search text with
  | none => text
  | some found => found.start.before.reverse ++ change found ++ found.stop.rest

/-- A text whose matches, none overlapping another, are replaced; `position` characters have been
passed already. -/
def replaceMatches (change : Found → List Char) : Nat → List Char → List Found → List Char
  | _, rest, [] => rest
  | position, rest, found :: more =>
    rest.take (found.start.position - position) ++ change found ++
      replaceMatches change found.stop.position
        (rest.drop (found.stop.position - position)) more

/-- The text with every match replaced. -/
def replaceAll (p : Pattern) (change : Found → List Char) (text : List Char) : List Char :=
  replaceMatches change 0 text (p.all text)

end CodeReview.Pattern
