/-
Texts as quoted literals, for messages that show a value. Single quotes are used unless the text
holds a single quote and no double one; a character without a glyph is written as an escape.
-/
import CodeReview.Text.CodePoint
import CodeReview.Text.Find
import CodeReview.Text.Printable

namespace CodeReview.Text

/-- The digits of `n` in base sixteen, with small letters. -/
def hexDigits (n : Nat) : List Char := Nat.toDigits 16 n

/-- `n` in base sixteen with at least `width` digits. -/
def hexPadded (width n : Nat) : List Char := padLeft width '0' (hexDigits n)

/-- A character as it stands between the quotes `quote`. -/
def quoteChar (quote c : Char) : List Char :=
  if c = quote || c = '\\' then ['\\', c]
  else if c = '\n' then ['\\', 'n']
  else if c = '\r' then ['\\', 'r']
  else if c = '\t' then ['\\', 't']
  else if isPrintable c then [c]
  else
    let n := codePoint c
    if n < 0x100 then '\\' :: 'x' :: hexPadded 2 n
    else if n < 0x10000 then '\\' :: 'u' :: hexPadded 4 n
    else '\\' :: 'U' :: hexPadded 8 n

/-- The quote that surrounds a text. -/
def quoteFor (text : List Char) : Char :=
  if text.contains '\'' && !text.contains '"' then '"' else '\''

/-- The text as a quoted literal. -/
def quoted (text : List Char) : List Char :=
  let quote := quoteFor text
  quote :: text.flatMap (quoteChar quote) ++ [quote]

def quote (text : String) : String := String.ofList (quoted text.toList)

end CodeReview.Text
