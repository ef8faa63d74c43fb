/-
Powers of two and ten, and sums.
-/

namespace CodeReview

/-- Two to the `n`. -/
def twoTo (n : Nat) : Nat := Nat.pow 2 n

/-- Ten to the `n`. -/
def tenTo (n : Nat) : Nat := Nat.pow 10 n

/-- The sum of some integers. -/
def sumInt : List Int → Int
  | [] => 0
  | i :: rest => i + sumInt rest

/-- The sum of some natural numbers. -/
def sumNat : List Nat → Nat
  | [] => 0
  | n :: rest => n + sumNat rest

end CodeReview
