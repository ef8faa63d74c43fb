/-
What can go wrong. A fault is a cause; `Fault.label` is the name it goes by in messages and
`Fault.detail` says what happened.
-/
import CodeReview.Text.Utf8
import CodeReview.Usage

namespace CodeReview

/-- Why a file or directory could not be used. -/
inductive FileFault where
  | missing (path : String)
  | notADirectory (path : String)
  | isADirectory (path : String)
  | exists (path : String)
  | nameTooLong (path : String)
  /-- A file was to take the place of a directory. -/
  | replacesDirectory (source target : String)
  deriving DecidableEq, Repr

/-- What is wrong with a text that is no YAML document. -/
inductive YamlFault where
  /-- A character that no document holds. -/
  | character
  /-- Characters that form no token. -/
  | token
  /-- Tokens that form no document. -/
  | arrangement
  /-- An anchor given twice or not at all, or a second document. -/
  | reference
  /-- A node that stands for no value. -/
  | value
  deriving DecidableEq, Repr

/-- Why an operation did not return. -/
inductive Fault where
  /-- A value of a kind that the operation does not take. -/
  | wrongType
  /-- A value without the operation asked of it. -/
  | noOperation
  /-- A number out of range. -/
  | outOfRange
  /-- A value of the right kind that makes no sense. -/
  | invalid (detail : String)
  /-- A stored document that is no history. -/
  | unusableDocument (detail : String)
  /-- Bytes that are no text. -/
  | undecodable (misfit : Text.Misfit)
  | malformedJson
  | malformedYaml (fault : YamlFault)
  | nestedTooDeep
  /-- A name that stands for nothing. -/
  | unknownName
  /-- A place beyond the end. -/
  | outOfBounds
  | file (fault : FileFault)
  | permissionDenied
  /-- A failure of the storage itself. -/
  | device (detail : String)
  /-- A command that could not be run. -/
  | commandFailed
  /-- A value that cannot be shown. -/
  | unshowable
  /-- A call of the program that it cannot answer. -/
  | usage (fault : UsageFault)
  deriving DecidableEq, Repr

namespace FileFault

def label : FileFault → String
  | .missing _ => "FileNotFoundError"
  | .notADirectory _ => "NotADirectoryError"
  | .isADirectory _ | .replacesDirectory .. => "IsADirectoryError"
  | .exists _ => "FileExistsError"
  | .nameTooLong _ => "OSError"

def detail : FileFault → String
  | .missing path => "[Errno 2] No such file or directory: " ++ Text.quote path
  | .notADirectory path => "[Errno 20] Not a directory: " ++ Text.quote path
  | .isADirectory path => "[Errno 21] Is a directory: " ++ Text.quote path
  | .exists path => "[Errno 17] File exists: " ++ Text.quote path
  | .nameTooLong path => "[Errno 36] File name too long: " ++ Text.quote path
  | .replacesDirectory source target =>
    "[Errno 21] Is a directory: " ++ Text.quote source ++ " -> " ++ Text.quote target

end FileFault

namespace Fault

def label : Fault → String
  | .file fault => fault.label
  | .permissionDenied => "PermissionError"
  | .device _ | .commandFailed => "OSError"
  | .invalid _ | .unusableDocument _ => "ValueError"
  | .wrongType => "wrong type"
  | .noOperation => "no such operation"
  | .outOfRange => "out of range"
  | .undecodable _ => "undecodable text"
  | .malformedJson => "malformed JSON"
  | .malformedYaml _ => "malformed YAML"
  | .nestedTooDeep => "RecursionError"
  | .unknownName => "unknown name"
  | .outOfBounds => "out of bounds"
  | .unshowable => "value cannot be shown"
  | .usage _ => "usage"

/-- What is wrong with bytes that are no text. -/
def misfitDetail (m : Text.Misfit) : String :=
  let reason := match m.reason with
    | .badStart => "invalid start byte"
    | .badContinuation => "invalid continuation byte"
    | .endOfData => "unexpected end of data"
  if m.width = 1 then
    "'utf-8' codec can't decode byte 0x" ++ String.ofList (Text.hexPadded 2 m.first.toNat) ++
      " in position " ++ toString m.position ++ ": " ++ reason
  else
    "'utf-8' codec can't decode bytes in position " ++ toString m.position ++ "-" ++
      toString (m.position + m.width - 1) ++ ": " ++ reason

def detail : Fault → String
  | .invalid detail | .unusableDocument detail | .device detail => detail
  | .nestedTooDeep => "maximum recursion depth exceeded while calling a Python object"
  | .undecodable m => misfitDetail m
  | .file fault => fault.detail
  | .usage fault => fault.message
  | _ => ""

/-- The storage failed, as opposed to what is stored in it. -/
def isStorageFault : Fault → Bool
  | .file _ | .device _ | .permissionDenied | .commandFailed => true
  | _ => false

end Fault

end CodeReview
