/-
Nodes: what the tokens of a document form. An alias is the node that its anchor was given to; inside
that node it is nothing yet.
-/
import CodeReview.Yaml.Lexer
import CodeReview.Yaml.Tag

namespace CodeReview.Yaml

inductive Node where
  | scalar (tag : Tag) (text : List Char)
  | sequence (tag : Tag) (items : List Node)
  | mapping (tag : Tag) (entries : List (Node × Node))
  /-- An alias inside the node it stands for. -/
  | unfinished
  deriving Repr, Inhabited

namespace Node

def tag : Node → Tag
  | .scalar tag _ | .sequence tag _ | .mapping tag _ => tag
  | .unfinished => .seq

/-- The scalar that stands where nothing is written. -/
def empty : Node := .scalar .null []

end Node

/-! ## Reading tokens -/

/-- Tokens on their way into nodes. -/
structure Parse where
  tokens : List Token
  /-- The fault at which the tokens end, if they do not end the text. -/
  fault : Option Fault
  anchors : List (String × Node) := []
  /-- What the handles of tags stand for. -/
  handles : List (String × String) := []

/-- Tokens that form no document. -/
def structureFault : Fault := .malformedYaml .arrangement

namespace Parse

/-- The next token; `none` at the end of the text. -/
def peek (p : Parse) : Except Fault (Option Token) :=
  match p.tokens, p.fault with
  | t :: _, _ => .ok (some t)
  | [], some fault => .error fault
  | [], none => .ok none

def drop (p : Parse) : Parse := { p with tokens := p.tokens.drop 1 }

/-- What a tag stands for, its handle replaced. -/
def expand (p : Parse) (tag : WrittenTag) : Except Fault String :=
  match tag.handle with
  | none => .ok tag.suffix
  | some handle =>
    match p.handles.lookup handle with
    | some expansion => .ok (expansion ++ tag.suffix)
    | none => .error structureFault

/-- Anchor and tag of a node. -/
structure Properties where
  anchor : Option String := none
  tag : Option WrittenTag := none

/-- The properties that come next, in either order. -/
def properties (p : Parse) : Except Fault (Properties × Parse) := do
  match ← p.peek with
  | some (.anchor name) =>
    let p := p.drop
    match ← p.peek with
    | some (.tag tag) => return (⟨some name, some tag⟩, p.drop)
    | _ => return (⟨some name, none⟩, p)
  | some (.tag tag) =>
    let p := p.drop
    match ← p.peek with
    | some (.anchor name) => return (⟨some name, some tag⟩, p.drop)
    | _ => return (⟨none, some tag⟩, p)
  | _ => return ({}, p)

/-- The tag of a scalar. The tag of a single exclamation mark leaves it to the form of the text. -/
def scalarTag (tag : Option String) (text : List Char) (plain : Bool) : Tag :=
  match tag with
  | none => if plain then .ofPlain text else .str
  | some "!" => .ofPlain text
  | some name => .ofName name

/-- The tag of a collection. -/
def collectionTag (tag : Option String) (standard : Tag) : Tag :=
  match tag with
  | none | some "!" => standard
  | some name => .ofName name

def setAnchor (p : Parse) (anchor : Option String) (node : Node) : Parse :=
  match anchor with
  | none => p
  | some name => { p with anchors := (name, node) :: p.anchors }

/-- The kinds of nodes that can stand somewhere. -/
structure Place where
  /-- Block collections can. -/
  block : Bool
  /-- Entries of a sequence can, without being indented. -/
  entries : Bool

def Place.flow : Place := ⟨false, false⟩
def Place.inBlock : Place := ⟨true, false⟩
def Place.ofKey : Place := ⟨true, true⟩

/-- The next token passes a test. -/
def isAt (p : Parse) (test : Token → Bool) : Except Fault Bool := do
  match ← p.peek with
  | some t => return test t
  | none => return false

/-- A node with nothing in it, for its properties' sake. -/
def emptyNode (anchor tag : Option String) (p : Parse) : Node × Parse :=
  let node := Node.scalar (scalarTag tag [] true) []
  (node, p.setAnchor anchor node)

def scalarNode (anchor tag : Option String) (text : List Char) (plain : Bool) (p : Parse) :
    Node × Parse :=
  let node := Node.scalar (scalarTag tag text plain) text
  (node, p.setAnchor anchor node)

/-- A sequence of items. -/
def sequenceNode (anchor tag : Option String) (read : List Node × Parse) : Node × Parse :=
  let node := Node.sequence (collectionTag tag .seq) read.1
  (node, read.2.setAnchor anchor node)

/-- A mapping of entries. -/
def mappingNode (anchor tag : Option String) (read : List (Node × Node) × Parse) : Node × Parse :=
  let node := Node.mapping (collectionTag tag .map) read.1
  (node, read.2.setAnchor anchor node)

/-- Nodes with these properties can be nothing else, or a node of the right kind comes next. -/
def beginsNode (place : Place) (given : Properties) : Option Token → Bool
  | some (.scalar ..) | some .flowSequenceStart | some .flowMappingStart => true
  | some .blockSequenceStart | some .blockMappingStart =>
    place.block || given.anchor.isSome || given.tag.isSome
  | some .blockEntry => place.entries || given.anchor.isSome || given.tag.isSome
  | _ => given.anchor.isSome || given.tag.isSome

/-- An anchor is given once. -/
def checkAnchor (p : Parse) (anchor : Option String) : Except Fault Unit :=
  if (anchor.bind fun name => p.anchors.lookup name).isSome then
    .error (.malformedYaml .reference)
  else .ok ()

def aliased (p : Parse) (name : String) : Except Fault Node :=
  match p.anchors.lookup name with
  | some node => .ok node
  | none => .error (.malformedYaml .reference)

/-- A comma, unless it is the first item that comes next. -/
def separator (first : Bool) (p : Parse) : Except Fault Parse := do
  if first then return p
  if ← p.isAt (· == .flowEntry) then return p.drop else throw structureFault

mutual

/-- The next node. Collections may be nested `depth` deep. -/
def node (place : Place) : Nat → Nat → Parse → Except Fault (Node × Parse)
  | 0, _, _ => .error structureFault
  | fuel + 1, depth, p => do
    match ← p.peek with
    | some (.alias name) => return (← p.aliased name, p.drop)
    | _ =>
      let (given, p) ← p.properties
      let tag ← given.tag.mapM p.expand
      let next ← p.peek
      if !beginsNode place given next then throw structureFault
      p.checkAnchor given.anchor
      content place given.anchor tag next fuel depth p
termination_by structural fuel => fuel

/-- The content of a node that begins with the token `next`. -/
def content (place : Place) (anchor tag : Option String) (next : Option Token) :
    Nat → Nat → Parse → Except Fault (Node × Parse)
  | 0, _, _ => .error structureFault
  | fuel + 1, depth, p =>
    let inside := p.setAnchor anchor .unfinished
    match next with
    | some (.scalar text plain) => .ok (scalarNode anchor tag text plain p.drop)
    | some .flowSequenceStart =>
      (flowItems true fuel depth inside.drop).map (sequenceNode anchor tag)
    | some .flowMappingStart =>
      (flowPairs true fuel depth inside.drop).map (mappingNode anchor tag)
    | some .blockEntry =>
      if place.entries then (looseEntries fuel depth inside).map (sequenceNode anchor tag)
      else .ok (emptyNode anchor tag p)
    | some .blockSequenceStart =>
      if place.block then (blockEntries fuel depth inside.drop).map (sequenceNode anchor tag)
      else .ok (emptyNode anchor tag p)
    | some .blockMappingStart =>
      if place.block then (blockPairs fuel depth inside.drop).map (mappingNode anchor tag)
      else .ok (emptyNode anchor tag p)
    | _ => .ok (emptyNode anchor tag p)
termination_by structural fuel => fuel

/-- A node one level down, or nothing where a token comes next that ends it. -/
def inner (place : Place) (ends : Token → Bool) :
    Nat → Nat → Parse → Except Fault (Node × Parse)
  | 0, _, _ => .error structureFault
  | fuel + 1, depth, p => do
    if ← p.isAt ends then return (.empty, p)
    match depth with
    | 0 => throw .nestedTooDeep
    | depth + 1 => node place fuel depth p
termination_by structural fuel => fuel

/-- The value after a key, if a colon says that there is one. -/
def valueNode (place : Place) (ends : Token → Bool) :
    Nat → Nat → Parse → Except Fault (Node × Parse)
  | 0, _, _ => .error structureFault
  | fuel + 1, depth, p => do
    if ← p.isAt (· == .value) then inner place ends fuel depth p.drop else return (.empty, p)
termination_by structural fuel => fuel

def blockEntries : Nat → Nat → Parse → Except Fault (List Node × Parse)
  | 0, _, _ => .error structureFault
  | fuel + 1, depth, p => do
    match ← p.peek with
    | some .blockEntry =>
      let (item, p) ← inner .inBlock (fun t => t == .blockEntry || t == .blockEnd)
        fuel depth p.drop
      let (items, p) ← blockEntries fuel depth p
      return (item :: items, p)
    | some .blockEnd => return ([], p.drop)
    | _ => throw structureFault
termination_by structural fuel => fuel

/-- The entries of a sequence that is not indented. -/
def looseEntries : Nat → Nat → Parse → Except Fault (List Node × Parse)
  | 0, _, _ => .error structureFault
  | fuel + 1, depth, p => do
    match ← p.peek with
    | some .blockEntry =>
      let (item, p) ← inner .inBlock
        (fun t => t == .blockEntry || t == .key || t == .value || t == .blockEnd)
        fuel depth p.drop
      let (items, p) ← looseEntries fuel depth p
      return (item :: items, p)
    | _ => return ([], p)
termination_by structural fuel => fuel

def blockPairs : Nat → Nat → Parse → Except Fault (List (Node × Node) × Parse)
  | 0, _, _ => .error structureFault
  | fuel + 1, depth, p => do
    let ends (t : Token) : Bool := t == .key || t == .value || t == .blockEnd
    match ← p.peek with
    | some .key =>
      let (key, p) ← inner .ofKey ends fuel depth p.drop
      let (value, p) ← valueNode .ofKey ends fuel depth p
      let (pairs, p) ← blockPairs fuel depth p
      return ((key, value) :: pairs, p)
    | some .blockEnd => return ([], p.drop)
    | _ => throw structureFault
termination_by structural fuel => fuel

/-- The items up to the closing bracket; a key makes an item a mapping of one entry. -/
def flowItems (first : Bool) : Nat → Nat → Parse → Except Fault (List Node × Parse)
  | 0, _, _ => .error structureFault
  | fuel + 1, depth, p => do
    if ← p.isAt (· == .flowSequenceEnd) then return ([], p.drop)
    let p ← p.separator first
    let ends (t : Token) : Bool := t == .flowEntry || t == .flowSequenceEnd
    match ← p.peek with
    | some .flowSequenceEnd => return ([], p.drop)
    | some .key =>
      let (key, p) ← inner .flow (fun t => t == .value || ends t) fuel depth p.drop
      let (value, p) ← valueNode .flow ends fuel depth p
      let (items, p) ← flowItems false fuel depth p
      return (.mapping .map [(key, value)] :: items, p)
    | _ =>
      let (item, p) ← inner .flow (fun _ => false) fuel depth p
      let (items, p) ← flowItems false fuel depth p
      return (item :: items, p)
termination_by structural fuel => fuel

/-- The entries up to the closing brace; one without a key sign has no value. -/
def flowPairs (first : Bool) : Nat → Nat → Parse → Except Fault (List (Node × Node) × Parse)
  | 0, _, _ => .error structureFault
  | fuel + 1, depth, p => do
    if ← p.isAt (· == .flowMappingEnd) then return ([], p.drop)
    let p ← p.separator first
    let ends (t : Token) : Bool := t == .flowEntry || t == .flowMappingEnd
    match ← p.peek with
    | some .flowMappingEnd => return ([], p.drop)
    | some .key =>
      let (key, p) ← inner .flow (fun t => t == .value || ends t) fuel depth p.drop
      let (value, p) ← valueNode .flow ends fuel depth p
      let (pairs, p) ← flowPairs false fuel depth p
      return ((key, value) :: pairs, p)
    | _ =>
      let (key, p) ← inner .flow (fun _ => false) fuel depth p
      let (pairs, p) ← flowPairs false fuel depth p
      return ((key, .empty) :: pairs, p)
termination_by structural fuel => fuel

end

/-! ## Documents -/

/-- What handles stand for unless a directive says otherwise. -/
def standardHandles : List (String × String) := [("!", "!"), ("!!", Tag.standardHandle)]

/-- The directives before a document. -/
def directives (versioned : Bool) : Nat → Parse → Except Fault Parse
  | 0, p => .ok p
  | fuel + 1, p => do
    match ← p.peek with
    | some (.directive (.version major)) =>
      if versioned || major ≠ 1 then throw structureFault
      directives true fuel p.drop
    | some (.directive (.tagHandle handle expansion)) =>
      if (p.handles.lookup handle).isSome then throw structureFault
      directives versioned fuel { p.drop with handles := p.handles ++ [(handle, expansion)] }
    | some (.directive .other) => directives versioned fuel p.drop
    | _ => return p

/-- The place after the signs that a document has ended. -/
def skipEnds : Nat → Parse → Except Fault Parse
  | 0, p => .ok p
  | fuel + 1, p => do
    if ← p.isAt (· == .documentEnd) then skipEnds fuel p.drop else return p

/-- The place after the sign that a document begins, its directives read. -/
def openDocument (fuel : Nat) (p : Parse) : Except Fault Parse := do
  let p ← directives false fuel { p with handles := [] }
  if ← p.isAt (· == .documentStart) then
    return { p.drop with handles := p.handles ++ standardHandles }
  else throw structureFault

def isDirective : Token → Bool
  | .directive _ => true
  | _ => false

/-- The root of a document that has been opened. -/
def rootNode (fuel depth : Nat) (p : Parse) : Except Fault (Node × Parse) := do
  match ← p.peek with
  | none => return (.empty, p)
  | some t =>
    if isDirective t || t == .documentStart || t == .documentEnd then return (.empty, p)
    else node .inBlock fuel depth p

/-- Nothing follows the document. -/
def checkEnd (fuel : Nat) (p : Parse) : Except Fault Unit := do
  let p ← skipEnds fuel p
  match ← p.peek with
  | none => return
  | some _ =>
    let _ ← openDocument fuel p
    throw (.malformedYaml .reference)

/-- The root of the only document, if there is one. -/
def document (fuel depth : Nat) (p : Parse) : Except Fault (Option Node) := do
  match ← p.peek with
  | none => return none
  | some t =>
    if isDirective t || t == .documentStart then
      let p ← openDocument fuel p
      let (root, p) ← rootNode fuel depth p
      checkEnd fuel p
      return some root
    else
      let (root, p) ← node .inBlock fuel depth { p with handles := standardHandles }
      checkEnd fuel p
      return some root

end Parse

/-- Collections may be nested this deep. -/
def maxDepth : Nat := 480

/-- The root of the only document in a text, if there is one. -/
def Node.read (text : List Char) : Except Fault (Option Node) :=
  let (tokens, fault) := tokens text
  Parse.document (8 * tokens.length + 16) maxDepth { tokens, fault }

end CodeReview.Yaml
