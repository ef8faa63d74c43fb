/-
The tokens of a YAML text, and those among them that say something about others: anchors, aliases, tags
and directives. Indentation has become tokens that begin and end collections, and a key is announced by a
token before it.
-/
import CodeReview.Json.Reader
import CodeReview.Yaml.Cursor

namespace CodeReview.Yaml

/-! ## Tokens -/

/-- What is said about a document before it begins. -/
inductive Directive where
  | version (major : Nat)
  | tagHandle (handle expansion : String)
  | other
  deriving DecidableEq, Repr

/-- A tag as it is written: a suffix to what a handle stands for, or the whole of it. -/
structure WrittenTag where
  handle : Option String
  suffix : String
  deriving DecidableEq, Repr

inductive Token where
  | directive (directive : Directive)
  | documentStart
  | documentEnd
  | blockSequenceStart
  | blockMappingStart
  | blockEnd
  | flowSequenceStart
  | flowSequenceEnd
  | flowMappingStart
  | flowMappingEnd
  | blockEntry
  | flowEntry
  | key
  | value
  | alias (name : String)
  | anchor (name : String)
  | tag (tag : WrittenTag)
  /-- A scalar; a plain one stands without quotes. -/
  | scalar (text : List Char) (plain : Bool)
  deriving DecidableEq, Repr

namespace Property

/-! ## Anchors -/

/-- What may follow the name of an anchor. -/
def endsAnchor (c : Option Char) : Bool :=
  isGap c || c.any fun ch => "?:,]\x7d%@`".toList.contains ch

/-- The name after the sign of an anchor or an alias. -/
def anchorName (c : Cursor) : Except Fault (String × Cursor) :=
  let name := c.upTo isNameChar
  let c := c.skip name.length
  if name.isEmpty || !endsAnchor c.peek then .error tokenFault
  else .ok (String.ofList name, c)

/-! ## Tags -/

/-- A character that can stand in a tag. -/
def isTagChar (c : Char) : Bool :=
  isNameChar c || ";/?:@&=+$,.!~*'()[]%".toList.contains c

/-- The bytes that signs of per cent and two digits each spell. -/
def escapedBytes : List Char → Except Fault (Text.Bytes × Nat)
  | '%' :: a :: b :: rest =>
    if isHexDigit a && isHexDigit b then
      let byte := (Json.hexValue? a).getD 0 * 16 + (Json.hexValue? b).getD 0
      (escapedBytes rest).map fun (bytes, length) => (UInt8.ofNat byte :: bytes, length + 3)
    else .error tokenFault
  | '%' :: _ => .error tokenFault
  | _ => .ok ([], 0)

/-- The characters of a tag. -/
def tagText : Nat → Cursor → Except Fault (List Char × Cursor)
  | 0, c => .ok ([], c)
  | fuel + 1, c =>
    match c.peek with
    | some '%' => do
      let (bytes, length) ← escapedBytes c.rest
      match Text.decode bytes with
      | .error _ => throw tokenFault
      | .ok text =>
        let (more, c) ← tagText fuel (c.skip length)
        return (text ++ more, c)
    | some ch =>
      if isTagChar ch then (tagText fuel c.next).map fun (more, c) => (ch :: more, c)
      else .ok ([], c)
    | none => .ok ([], c)

/-- The characters of a tag, of which there must be some. -/
def tagSuffix (c : Cursor) : Except Fault (String × Cursor) :=
  if c.peek.any isTagChar then
    (tagText (c.rest.length + 1) c).map fun (text, c) => (String.ofList text, c)
  else .error tokenFault

/-- The handle of a tag: one exclamation mark, or a name between two. -/
def tagHandle (c : Cursor) : Except Fault (String × Cursor) :=
  if c.peek ≠ some '!' then .error tokenFault
  else if c.peekAt 1 = some ' ' then .ok ("!", c.next)
  else
    let name := c.next.upTo isNameChar
    let c := c.next.skip name.length
    if c.peek = some '!' then .ok (String.ofList ('!' :: name ++ ['!']), c.next)
    else .error tokenFault

/-- The exclamation mark at the front of a tag is followed by another before the word ends. -/
def hasHandle (c : Cursor) : Bool :=
  (c.next.upTo fun ch => !endsWord (some ch)).contains '!'

/-- Reads a tag from its exclamation mark on. -/
def tag (c : Cursor) : Except Fault (WrittenTag × Cursor) := do
  let (tag, c) ←
    if c.peekAt 1 = some '<' then do
      let (suffix, c) ← tagSuffix (c.skip 2)
      if c.peek ≠ some '>' then throw tokenFault
      pure (⟨none, suffix⟩, c.next)
    else if isGap (c.peekAt 1) then pure (⟨none, "!"⟩, c.next)
    else do
      let (handle, c) ← if hasHandle c then tagHandle c else pure ("!", c.next)
      let (suffix, c) ← tagSuffix c
      pure (⟨some handle, suffix⟩, c)
  if endsWord c.peek then return (tag, c) else throw tokenFault

/-! ## Directives -/

/-- A number in ASCII digits. -/
def number (c : Cursor) : Except Fault (Nat × Cursor) :=
  let digits := c.upTo fun ch => '0' ≤ ch && ch ≤ '9'
  if digits.isEmpty then .error tokenFault
  else .ok (Integer.ofDigits digits, c.skip digits.length)

/-- A version: two numbers with a point between them. -/
def version (c : Cursor) : Except Fault (Directive × Cursor) := do
  let (major, c) ← number c.skipBlanks
  if c.peek ≠ some '.' then throw tokenFault
  let (_, c) ← number c.next
  if endsWord c.peek then return (.version major, c) else throw tokenFault

/-- A handle and what it stands for. -/
def handleDirective (c : Cursor) : Except Fault (Directive × Cursor) := do
  let (handle, c) ← tagHandle c.skipBlanks
  if c.peek ≠ some ' ' then throw tokenFault
  let (expansion, c) ← tagSuffix c.skipBlanks
  if endsWord c.peek then return (.tagHandle handle expansion, c) else throw tokenFault

/-- Reads a directive, with its line, from the sign of per cent on. -/
def directive (c : Cursor) : Except Fault (Directive × Cursor) := do
  let name := c.next.upTo isNameChar
  let c := c.next.skip name.length
  if name.isEmpty || !endsWord c.peek then throw tokenFault
  let (directive, c) ←
    if name = "YAML".toList then version c
    else if name = "TAG".toList then handleDirective c
    else pure (.other, c.skipWhile (!isBreak ·))
  let c := c.skipBlanks.skipComment
  if endsLine c.peek then return (directive, c.lineBreak.2) else throw tokenFault

end Property

end CodeReview.Yaml
