/-
YAML texts as settings. Each node is made into the kind of value that its tag names; the entries of
mappings under a merge key come before a mapping's own.
-/
import CodeReview.Number.Decimal
import CodeReview.Text.Base64
import CodeReview.Text.Case
import CodeReview.Text.Lines
import CodeReview.Value
import CodeReview.Yaml.Node

namespace CodeReview.Yaml

/-- A node that stands for no value. -/
def valueFault : Fault := .malformedYaml .value

/-! ## Scalars -/

/-- The number whose digits in a base are given. -/
def numberInBase? (base : Nat) (digits : List Char) : Option Nat :=
  if digits.isEmpty then none
  else digits.foldlM (fun n d =>
    match Json.hexValue? d with
    | some v => if v < base then some (n * base + v) else none
    | none => none) 0

/-- A number of the right kind that makes no sense. -/
def numberFault : Fault := .invalid "invalid literal"

/-- Numbers with colons between them, in base sixty. -/
def sexagesimal? (text : List Char) : Option Int := do
  let parts ← (Text.splitOnChar ':' text).mapM Integer.ofText?
  return parts.foldl (fun n part => n * 60 + part) 0

/-- The magnitude of an integer in any of its forms. -/
def magnitude? (text : List Char) : Option Int :=
  match text with
  | ['0'] => some 0
  | '0' :: 'b' :: digits => (numberInBase? 2 digits).map Int.ofNat
  | '0' :: 'x' :: digits => (numberInBase? 16 digits).map Int.ofNat
  | '0' :: _ => (numberInBase? 8 text).map Int.ofNat
  | _ => if text.contains ':' then sexagesimal? text else Integer.ofText? text

/-- The sign of a number and what follows it. -/
def signed (text : List Char) : Bool × List Char :=
  match text with
  | '-' :: rest => (true, rest)
  | '+' :: rest => (false, rest)
  | _ => (false, text)

def intOf (text : List Char) : Except Fault Int :=
  let (negative, body) := signed (text.filter (· ≠ '_'))
  if body.isEmpty then .error .outOfBounds
  else match magnitude? body with
    | some n => .ok (if negative then -n else n)
    | none => .error numberFault

/-- Floating-point numbers with colons between them, in base sixty; the last is counted first. -/
def sexagesimalFloat? (text : List Char) : Option Double := do
  let parts ← (Text.splitOnChar ':' text).mapM Decimal.ofText?
  let (total, _) := parts.reverse.foldl (fun (total, base) part =>
    (Double.add total (Double.mul part (.ofInt base)), base * 60)) (Double.finite 0, (1 : Int))
  return total

def floatOf (text : List Char) : Except Fault Double :=
  let (negative, body) := signed (Text.asciiLowerText (text.filter (· ≠ '_')))
  if body.isEmpty then .error .outOfBounds
  else if body = ".inf".toList then .ok (.infinity negative)
  else if body = ".nan".toList then .ok .nan
  else
    match if body.contains ':' then sexagesimalFloat? body else Decimal.ofText? body with
    | some x => .ok (if negative then x.neg else x)
    | none => .error numberFault

/-- The words for truth values. -/
def truths : List (String × Bool) :=
  [("yes", true), ("no", false), ("true", true), ("false", false), ("on", true), ("off", false)]

def boolOf (text : List Char) : Except Fault Bool :=
  match truths.lookup (String.ofList (Text.asciiLowerText text)) with
  | some b => .ok b
  | none => .error .unknownName

def bytesOf (text : List Char) : Except Fault Text.Bytes :=
  if text.all fun c => c.toNat < 128 then
    match Text.Base64.decode text with
    | some bytes => .ok bytes
    | none => .error valueFault
  else .error valueFault

def timestampOf (text : List Char) : Except Fault Value :=
  match Timestamp.read? text with
  | none => .error .noOperation
  | some t => do
    match ← t.toMoment with
    | .inl date => return .date date
    | .inr moment => return .moment moment

/-- A scalar of a kind. -/
def scalarOf (tag : Tag) (text : List Char) : Except Fault Value :=
  match tag with
  | .null => .ok .null
  | .bool => (boolOf text).map .bool
  | .int => (intOf text).map .int
  | .float => (floatOf text).map .float
  | .binary => (bytesOf text).map .bytes
  | .timestamp => timestampOf text
  | .str => .ok (.string (String.ofList text))
  | _ => .error valueFault

/-! ## Collections -/

namespace Node

/-- The entries that a node has to merge into a mapping: its own, or those of its items, the last item
first. -/
def mergedEntries (flat : Node → Except Fault (List (Node × Node))) (node : Node) :
    Except Fault (List (Node × Node)) :=
  match node with
  | .mapping .. => flat node
  | .sequence _ items => return (← items.mapM flat).reverse.flatten
  | _ => .error valueFault

/-- The entries of a mapping with those of its merge keys before them. A key that stands for the value
of its mapping is a text here. `depth` bounds how deep merge keys are nested. -/
def flatEntries : Nat → Node → Except Fault (List (Node × Node))
  | 0, _ => .error .nestedTooDeep
  | depth + 1, .mapping _ entries => do
    let merged ← (entries.filter (·.1.tag == .merge)).mapM fun entry =>
      mergedEntries (flatEntries depth) entry.2
    let own := (entries.filter (·.1.tag != .merge)).map fun (key, value) =>
      match key with
      | .scalar .default text => (Node.scalar .str text, value)
      | _ => (key, value)
    return merged.flatten ++ own
  | _, _ => .error valueFault

/-- The text of a scalar, or of what a mapping has under the key that stands for its value. -/
def scalarText : Nat → Node → Except Fault (List Char)
  | _, .scalar _ text => .ok text
  | depth + 1, .mapping _ entries =>
    match entries.find? (·.1.tag == .default) with
    | some (_, value) => scalarText depth value
    | none => .error valueFault
  | _, _ => .error valueFault

/-- The only entry of a mapping. -/
def singleEntry : Node → Except Fault (Node × Node)
  | .mapping _ [entry] => .ok entry
  | _ => .error valueFault

/-- The value that a node stands for. -/
def value : Nat → Node → Except Fault Value
  | 0, _ => .error .nestedTooDeep
  | depth + 1, node => do
    let mapped (node : Node) : Except Fault (List (Value × Value)) := do
      (← flatEntries (depth + 1) node).foldlM (fun all (key, item) => do
        let key ← value depth key
        if !key.isKey then throw valueFault
        return Value.insert key (← value depth item) all) []
    match node.tag with
    | .seq =>
      match node with
      | .sequence _ items => return .list (← items.mapM (value depth))
      | .unfinished => return .list []
      | _ => throw valueFault
    | .omap | .pairs =>
      match node with
      | .sequence _ items =>
        let entries ← items.mapM singleEntry
        return .list (← entries.mapM fun (key, item) =>
          return .pair (← value depth key) (← value depth item))
      | _ => throw valueFault
    | .map => return .map (← mapped node)
    | .set => return .set ((← mapped node).map (·.1))
    | tag => scalarOf tag (← scalarText (depth + 1) node)

end Node

/-- The settings that a text spells; null where it holds no document. -/
def read (text : List Char) : Except Fault Value := do
  match ← Node.read text with
  | none => return .null
  | some node => node.value (2 * maxDepth)

end CodeReview.Yaml
