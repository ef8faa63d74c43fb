/-
Comma-separated values: one record a line. A field that holds a comma, a quote or a line feed is put
between quotes, and a quote inside it is written twice.
-/

namespace CodeReview.Text.Csv

/-- A character that cannot stand in a bare field. -/
def needsQuotes (c : Char) : Bool := c == ',' || c == '"' || c == '\n'

/-- A field with each quote written twice. -/
def doubleQuotes (field : List Char) : List Char :=
  field.flatMap fun c => if c = '"' then ['"', '"'] else [c]

def writeField (field : List Char) : List Char :=
  if field.any needsQuotes then '"' :: doubleQuotes field ++ ['"'] else field

/-- The fields of a record, with commas between them. -/
def writeFields : List (List Char) → List Char
  | [] => []
  | [field] => writeField field
  | field :: fields => writeField field ++ ',' :: writeFields fields

/-- A record of more than one field, with the end of its line. -/
def writeRecord (fields : List (List Char)) : List Char := writeFields fields ++ ['\n']

def write (records : List (List (List Char))) : List Char := records.flatMap writeRecord

end CodeReview.Text.Csv
