import SemanticLayer.Text.Ascii
/-!
Records separated by commas, one on each line. A field is quoted only if it holds a comma, a quote or
a line break; a quote inside of quotes is doubled.
-/
namespace SemanticLayer.Csv

/-- Whether a field must be quoted. -/
def needsQuotes (cs : List Char) : Bool :=
  cs.any fun c => c = ',' || c = '"' || c = '\n' || c = '\r'

/-- A field as it is written. -/
def field (text : String) : String :=
  let cs := text.toList
  if needsQuotes cs then String.ofList ('"' :: Text.replaceChar '"' ['"', '"'] cs ++ ['"'])
  else text

/-- A record with the end of its line. -/
def record (fields : List String) : String := Text.join "," (fields.map field) ++ "\n"

/-- Records, one on each line. -/
def render (records : List (List String)) : String := String.join (records.map record)

end SemanticLayer.Csv
