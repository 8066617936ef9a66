/-!
# Comma-separated values

A row is its fields with a comma between them and a carriage return and line feed at the end. A field that contains a
comma, a quote, a carriage return or a line feed stands in quotes, with each quote inside it doubled; any other field
stands as it is.
-/

namespace ModelImport.Csv

def quote : Char := '\x22'

/-- Whether a character forces its field into quotes. -/
def isSpecial (c : Char) : Bool := c == ',' || c == quote || c == '\r' || c == '\n'

/-- Text with each quote doubled. -/
def doubleQuotes : List Char → List Char
  | [] => []
  | c :: rest => if c = quote then quote :: quote :: doubleQuotes rest else c :: doubleQuotes rest

/-- One field as it is written. -/
def field (text : String) : List Char :=
  if text.toList.any isSpecial then quote :: doubleQuotes text.toList ++ [quote] else text.toList

/-- One row as it is written, with its line end. -/
def row (fields : List String) : List Char :=
  [','].intercalate (fields.map field) ++ ['\r', '\n']

/-- A table as it is written. -/
def write (rows : List (List String)) : String := String.ofList (rows.flatMap row)

end ModelImport.Csv
