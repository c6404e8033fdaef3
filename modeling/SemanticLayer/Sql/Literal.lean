import SemanticLayer.Text.Ascii
/-!
String literals of SQL. In single quotes a quote and a backslash are doubled; between pairs of
dollar signs a text stands as it is.
-/
namespace SemanticLayer.Sql

/-- A text as it is written in single quotes: its backslashes are doubled, and then its quotes. -/
def escape (cs : List Char) : List Char :=
  Text.replaceChar '\'' ['\'', '\''] (Text.replaceChar '\\' ['\\', '\\'] cs)

/-- A text in single quotes. -/
def quoteChars (cs : List Char) : List Char := '\'' :: escape cs ++ ['\'']

/-- A text in single quotes. -/
def quote (text : String) : String := String.ofList (quoteChars text.toList)

/-- A text with a line feed at its end. -/
def endLine (cs : List Char) : List Char :=
  if cs.getLast? = some '\n' then cs else cs ++ ['\n']

/-- A definition of several lines as a literal that starts on a line of its own. It stands between
pairs of dollar signs unless it has such a pair itself. -/
def block (text : String) : String :=
  let body := endLine text.toList
  if Text.containsPart ['$', '$'] body then String.ofList (quoteChars ('\n' :: body))
  else String.ofList (['$', '$', '\n'] ++ body ++ ['$', '$'])

/-- A pattern that matches a name only: its backslashes are escaped, and then its wildcards. -/
def likePattern (name : String) : String :=
  let escaped := Text.replaceChar '\\' ['\\', '\\'] name.toList
  String.ofList (Text.replaceChar '%' ['\\', '%'] (Text.replaceChar '_' ['\\', '_'] escaped))

end SemanticLayer.Sql
