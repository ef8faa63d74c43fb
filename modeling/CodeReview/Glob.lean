/-
Globs: patterns for paths. A star stands for anything inside one name, two stars for anything at all,
a question mark for one character of a name.
-/
import CodeReview.Pattern.Search

namespace CodeReview

/-- One element of a glob. -/
inductive GlobToken where
  /-- Any number of directories, each with its slash. -/
  | directories
  /-- Nothing, or a slash and anything below. -/
  | below
  | anything
  /-- Any characters but a slash. -/
  | inName
  /-- One character that is no slash. -/
  | oneInName
  | char (c : Char)
  deriving DecidableEq, Repr

abbrev Glob := List GlobToken

namespace Glob

/-- The elements of a glob as it is written, from left to right. -/
def read : List Char → Glob
  | [] => []
  | '*' :: '*' :: '/' :: rest => .directories :: read rest
  | ['/', '*', '*'] => [.below]
  | '*' :: '*' :: rest => .anything :: read rest
  | '*' :: rest => .inName :: read rest
  | '?' :: rest => .oneInName :: read rest
  | c :: rest => .char c :: read rest

open Pattern in
/-- An element as a pattern. -/
def tokenPattern : GlobToken → Pattern
  | .directories => optional (.seq (many .inLine) (.char (.only '/')))
  | .below => optional (.seq (.char (.only '/')) (many .inLine))
  | .anything => many .inLine
  | .inName => many (.except "/")
  | .oneInName => .char (.except "/")
  | .char c => .char (.only c)

/-- The pattern of a whole path. -/
def pattern (glob : Glob) : Pattern :=
  Pattern.sequence (glob.map tokenPattern ++ [.anchor .textEnd])

/-- The glob stands for the whole path. -/
def covers (glob : Glob) (path : List Char) : Bool := (glob.pattern.matchStart path).isSome

end Glob

end CodeReview
