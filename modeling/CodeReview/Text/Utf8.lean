/-
The UTF-8 encoding of texts. `encode` writes each character as one to four bytes and `decode` reads
them back; bytes that are no encoding are refused with the place and the reason.
-/

namespace CodeReview.Text

abbrev Bytes := List UInt8

/-! ## Writing -/

/-- The bytes of one character. -/
def encodeChar (c : Char) : Bytes :=
  let n := c.toNat
  if n < 0x80 then [UInt8.ofNat n]
  else if n < 0x800 then [UInt8.ofNat (0xC0 + n / 64), UInt8.ofNat (0x80 + n % 64)]
  else if n < 0x10000 then
    [UInt8.ofNat (0xE0 + n / 4096), UInt8.ofNat (0x80 + n / 64 % 64), UInt8.ofNat (0x80 + n % 64)]
  else
    [UInt8.ofNat (0xF0 + n / 262144), UInt8.ofNat (0x80 + n / 4096 % 64),
      UInt8.ofNat (0x80 + n / 64 % 64), UInt8.ofNat (0x80 + n % 64)]

/-- The bytes of a text. -/
def encode (text : List Char) : Bytes := text.flatMap encodeChar

/-- The number of bytes of a text. -/
def encodedSize (text : List Char) : Nat := (encode text).length

/-! ## Reading -/

/-- Why a byte cannot be read. -/
inductive MisfitReason where
  | badStart
  | badContinuation
  | endOfData
  deriving DecidableEq, Repr

/-- Bytes that are no UTF-8: where they begin, how many they are, and the first of them. -/
structure Misfit where
  position : Nat
  width : Nat
  first : UInt8
  reason : MisfitReason
  deriving DecidableEq, Repr

def isContinuation (b : UInt8) : Bool := 0x80 ≤ b && b < 0xC0

/-- The second byte that may follow the lead byte; the overlong forms, the surrogates and what lies
beyond the last code point are kept out here. -/
def fitsSecond (lead second : UInt8) : Bool :=
  isContinuation second &&
    (lead != 0xE0 || 0xA0 ≤ second) && (lead != 0xED || second < 0xA0) &&
    (lead != 0xF0 || 0x90 ≤ second) && (lead != 0xF4 || second < 0x90)

/-- The character at the front and how many bytes it takes; otherwise how many bytes are at fault and
why. -/
def decodeChar? : Bytes → Except (Nat × MisfitReason) (Char × Nat)
  | [] => .error (0, .endOfData)
  | a :: rest =>
    if a < 0x80 then .ok (Char.ofNat a.toNat, 1)
    else if a < 0xC2 || 0xF5 ≤ a then .error (1, .badStart)
    else match rest with
      | [] => .error (1, .endOfData)
      | b :: rest =>
        if !fitsSecond a b then .error (1, .badContinuation)
        else if a < 0xE0 then
          .ok (Char.ofNat ((a.toNat - 0xC0) * 64 + (b.toNat - 0x80)), 2)
        else match rest with
          | [] => .error (2, .endOfData)
          | c :: rest =>
            if !isContinuation c then .error (2, .badContinuation)
            else if a < 0xF0 then
              .ok (Char.ofNat
                ((a.toNat - 0xE0) * 4096 + (b.toNat - 0x80) * 64 + (c.toNat - 0x80)), 3)
            else match rest with
              | [] => .error (3, .endOfData)
              | d :: _ =>
                if !isContinuation d then .error (3, .badContinuation)
                else .ok (Char.ofNat ((a.toNat - 0xF0) * 262144 + (b.toNat - 0x80) * 4096 +
                  (c.toNat - 0x80) * 64 + (d.toNat - 0x80)), 4)

/-- Decodes from `position` on; `skip` bytes of the last character are still to be passed over. -/
def decodeFrom (position skip : Nat) : Bytes → Except Misfit (List Char)
  | [] => .ok []
  | b :: rest =>
    match skip with
    | skip + 1 => decodeFrom (position + 1) skip rest
    | 0 =>
      match decodeChar? (b :: rest) with
      | .ok (c, width) => (decodeFrom (position + 1) (width - 1) rest).map (c :: ·)
      | .error (width, reason) => .error ⟨position, width, b, reason⟩

/-- The text that the bytes encode. -/
def decode (bytes : Bytes) : Except Misfit (List Char) := decodeFrom 0 0 bytes

end CodeReview.Text
