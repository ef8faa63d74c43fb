/-
Texts that are much alike: those of which, cut at the longest parts that they share, enough is shared.
-/

namespace CodeReview.Text

/-- How many characters two texts begin with in common. -/
def commonFront : List Char → List Char → Nat
  | a :: s, b :: t => if a = b then commonFront s t + 1 else 0
  | _, _ => 0

/-- Where a part that two texts share begins in each, and how long it is. -/
structure Shared where
  first : Nat
  second : Nat
  length : Nat

/-- The longest part that begins at the front of one text, of several the first in the other, if it is
longer than the best so far. -/
def longestAtFront (first : Nat) (text : List Char) (best : Shared) : Nat → List Char → Shared
  | _, [] => best
  | second, b :: t =>
    let length := commonFront text (b :: t)
    longestAtFront first text (if best.length < length then ⟨first, second, length⟩ else best)
      (second + 1) t

/-- The longest part that two texts share; of several, the first in the first text. -/
def longestShared (best : Shared) (first : Nat) : List Char → List Char → Shared
  | [], _ => best
  | a :: s, t => longestShared (longestAtFront first (a :: s) best 0 t) (first + 1) s t

/-- How many characters two texts share: those of the longest part, and those of what stands before it
and behind it. `fuel` bounds the parts. -/
def sharedCount : Nat → List Char → List Char → Nat
  | 0, _, _ => 0
  | fuel + 1, s, t =>
    let part := longestShared ⟨0, 0, 0⟩ 0 s t
    if part.length = 0 then 0
    else part.length + sharedCount fuel (s.take part.first) (t.take part.second) +
      sharedCount fuel (s.drop (part.first + part.length)) (t.drop (part.second + part.length))

/-- How much of two texts is shared. -/
def likeness (s t : String) : Rat :=
  mkRat (2 * sharedCount s.length s.toList t.toList : Nat) (s.length + t.length)

/-- The texts, at most three, of which at least three fifths are shared with a text, in order. -/
def similarTo (text : String) (candidates : List String) : List String :=
  let alike := (candidates.map fun c => (likeness c text, c)).filter fun (l, _) => mkRat 3 5 ≤ l
  let best := alike.mergeSort fun (l, c) (m, d) => m < l || (l == m && d ≤ c)
  ((best.take 3).map (·.2)).mergeSort fun c d => c ≤ d

end CodeReview.Text
