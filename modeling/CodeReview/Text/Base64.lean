/-
Bytes written with sixty-four characters, each of which stands for six bits. Reading passes over all
other characters; what is left over at the end must be made up with equals signs.
-/
import CodeReview.Text.Utf8

namespace CodeReview.Text.Base64

/-- The characters in the order of their values. -/
def alphabet : List Char :=
  "ABCDEFGHIJKLMNOPQRSTUVWXYZabcdefghijklmnopqrstuvwxyz0123456789+/".toList

/-- The six bits of a character. -/
def value? (c : Char) : Option Nat := alphabet.findIdx? (· == c)

/-- Reads on after `held` characters of a group of four, of which `bits` are not yet in a byte, and
`signs` equals signs. -/
def readFrom (held bits signs : Nat) : List Char → Option Bytes
  | [] => if held = 0 then some [] else none
  | c :: rest =>
    if c = '=' then
      if 2 ≤ held then if 4 ≤ held + (signs + 1) then some [] else readFrom held bits (signs + 1) rest
      else readFrom held bits signs rest
    else
      match value? c with
      | none => readFrom held bits signs rest
      | some n =>
        match held with
        | 0 => readFrom 1 n 0 rest
        | 1 => (readFrom 2 (n % 16) 0 rest).map (UInt8.ofNat (bits * 4 + n / 16) :: ·)
        | 2 => (readFrom 3 (n % 4) 0 rest).map (UInt8.ofNat (bits * 16 + n / 4) :: ·)
        | _ => (readFrom 0 0 0 rest).map (UInt8.ofNat (bits * 64 + n) :: ·)

/-- The bytes that a text spells. -/
def decode (text : List Char) : Option Bytes := readFrom 0 0 0 text

def char (n : Nat) : Char := alphabet.getD (n % 64) 'A'

/-- The characters of some bytes. -/
def encode : Bytes → List Char
  | a :: b :: c :: rest =>
    let n := a.toNat * 65536 + b.toNat * 256 + c.toNat
    char (n / 262144) :: char (n / 4096) :: char (n / 64) :: char n :: encode rest
  | [a, b] =>
    let n := a.toNat * 65536 + b.toNat * 256
    [char (n / 262144), char (n / 4096), char (n / 64), '=']
  | [a] => [char (a.toNat / 4), char (a.toNat * 16), '=', '=']
  | [] => []

end CodeReview.Text.Base64
