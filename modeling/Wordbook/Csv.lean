/-!
# Comma-separated values

Records of fields, one record a line. A field that holds a comma, a quote or a
line end is written between quotes, and a quote inside it twice.
-/

namespace Wordbook.Csv

/-- Whether a field has to stand between quotes. -/
def needsQuotes (field : List Char) : Bool :=
  field.any fun c => c == ',' || c == '"' || c == '\n' || c == '\r'

/-- A text with every quote written twice. -/
def doubleQuotes : List Char → List Char
  | [] => []
  | c :: t => if c = '"' then '"' :: '"' :: doubleQuotes t else c :: doubleQuotes t

def field (t : List Char) : List Char :=
  if needsQuotes t then '"' :: doubleQuotes t ++ ['"'] else t

/-- A record of at least two fields, with its line end. -/
def record (fields : List (List Char)) : List Char :=
  [','].intercalate (fields.map field) ++ ['\n']

end Wordbook.Csv
