import SemanticLayer.Json.Basic
/-!
The scalars of TOML: strings in four kinds of quotes, integers in four bases, floating-point numbers
and dates. Each reader takes the characters from where a scalar starts and gives what follows it; it
gives nothing if there is no such scalar.
-/
namespace SemanticLayer.Toml

/-- Spaces and tabs. -/
def isSpace (c : Char) : Bool := c = ' ' || c = '\t'

/-- Steps over spaces and tabs. -/
def skipSpace (cs : List Char) : List Char := cs.dropWhile isSpace

/-- Characters that may stand in strings and comments: no controls other than the tab. -/
def isTextual (c : Char) : Bool := c = '\t' || (0x20 ≤ c.toNat && c.toNat ≠ 0x7F)

/-- Steps over a line break. -/
def lineBreak? : List Char → Option (List Char)
  | '\n' :: rest => some rest
  | '\r' :: '\n' :: rest => some rest
  | _ => none

/-- The value of a hexadecimal digit. -/
def hexValue? (c : Char) : Option Nat :=
  if c.isDigit then some (c.toNat - 48)
  else if 'a' ≤ c ∧ c ≤ 'f' then some (c.toNat - 87)
  else if 'A' ≤ c ∧ c ≤ 'F' then some (c.toNat - 55)
  else none

/-- The character of a code that is written in hexadecimal digits. -/
def codePoint? (digits : List Char) : Option Char := do
  let values ← digits.mapM hexValue?
  let n := values.foldl (fun n d => n * 16 + d) 0
  if n < 0xD800 || (0xDFFF < n && n ≤ 0x10FFFF) then some (Char.ofNat n) else none

/-- Reads an escape behind its backslash. -/
def escape? : List Char → Option (Char × List Char)
  | 'b' :: rest => some ('\x08', rest)
  | 't' :: rest => some ('\t', rest)
  | 'n' :: rest => some ('\n', rest)
  | 'f' :: rest => some ('\x0c', rest)
  | 'r' :: rest => some ('\r', rest)
  | '"' :: rest => some ('"', rest)
  | '\\' :: rest => some ('\\', rest)
  | 'u' :: a :: b :: c :: d :: rest => (codePoint? [a, b, c, d]).map ((·, rest))
  | 'U' :: a :: b :: c :: d :: e :: f :: g :: h :: rest =>
    (codePoint? [a, b, c, d, e, f, g, h]).map ((·, rest))
  | _ => none

/-- Reads a string in double quotes on one line, behind the opening one. A round takes at least one
character, so the length of the text is enough fuel. -/
def basicChars : Nat → List Char → Option (List Char × List Char)
  | 0, _ => none
  | fuel + 1, cs =>
    match cs with
    | [] => none
    | '"' :: rest => some ([], rest)
    | '\\' :: rest => do
      let (c, rest) ← escape? rest
      let (more, rest) ← basicChars fuel rest
      return (c :: more, rest)
    | c :: rest =>
      if isTextual c then (basicChars fuel rest).map fun (more, rest) => (c :: more, rest)
      else none

/-- Reads a string in single quotes on one line, behind the opening one. -/
def literalChars : List Char → Option (List Char × List Char)
  | [] => none
  | '\'' :: rest => some ([], rest)
  | c :: rest =>
    if isTextual c then (literalChars rest).map fun (more, rest) => (c :: more, rest) else none

/-- The number of times that a character stands at the front. -/
def countFront (c : Char) (cs : List Char) : Nat := (cs.takeWhile (· = c)).length

/-- A line break and the blanks and line breaks behind it, or none of them. -/
def skipBlankLines : List Char → List Char
  | '\n' :: rest => skipBlankLines rest
  | '\r' :: '\n' :: rest => skipBlankLines rest
  | c :: rest => if isSpace c then skipBlankLines rest else c :: rest
  | [] => []

/-- Reads the inside of a string of several lines that ends in three quotes. Up to two quotes may
stand before those. A backslash at the end of a line joins the next text to it. -/
def multilineChars (quote : Char) (escapes : Bool) : Nat → List Char →
    Option (List Char × List Char)
  | 0, _ => none
  | fuel + 1, cs =>
    let quotes := countFront quote cs
    if 3 ≤ quotes then
      if 5 < quotes then none
      else some (List.replicate (quotes - 3) quote, cs.drop quotes)
    else match cs with
      | [] => none
      | '\r' :: '\n' :: rest =>
        (multilineChars quote escapes fuel rest).map fun (more, rest) => ('\n' :: more, rest)
      | '\n' :: rest =>
        (multilineChars quote escapes fuel rest).map fun (more, rest) => ('\n' :: more, rest)
      | c :: rest =>
        if escapes && c = '\\' then
          match lineBreak? (skipSpace rest) with
          | some rest => multilineChars quote escapes fuel (skipBlankLines rest)
          | none => do
            let (c, rest) ← escape? rest
            let (more, rest) ← multilineChars quote escapes fuel rest
            return (c :: more, rest)
        else if isTextual c then
          (multilineChars quote escapes fuel rest).map fun (more, rest) => (c :: more, rest)
        else none

/-- Drops the line break directly behind the opening quotes. -/
def dropFirstBreak (cs : List Char) : List Char := (lineBreak? cs).getD cs

/-- Reads a string. -/
def string? (cs : List Char) : Option (String × List Char) :=
  let read := match cs with
    | '"' :: '"' :: '"' :: rest => multilineChars '"' true cs.length (dropFirstBreak rest)
    | '\'' :: '\'' :: '\'' :: rest => multilineChars '\'' false cs.length (dropFirstBreak rest)
    | '"' :: rest => basicChars cs.length rest
    | '\'' :: rest => literalChars rest
    | _ => none
  read.map fun (chars, rest) => (String.ofList chars, rest)

/-- Reads what follows a digit: more digits of a class, each with at most one underscore before
it. -/
def moreDigits? (isDigit : Char → Bool) : List Char → Option (List Char × List Char)
  | [] => some ([], [])
  | '_' :: d :: rest =>
    if isDigit d then (moreDigits? isDigit rest).map fun (ds, rest) => (d :: ds, rest) else none
  | c :: rest =>
    if c = '_' then none
    else if isDigit c then (moreDigits? isDigit rest).map fun (ds, rest) => (c :: ds, rest)
    else some ([], c :: rest)

/-- Reads at least one digit of a class. -/
def digits? (isDigit : Char → Bool) : List Char → Option (List Char × List Char)
  | [] => none
  | c :: rest =>
    if isDigit c then (moreDigits? isDigit rest).map fun (ds, rest) => (c :: ds, rest) else none

/-- The value of digits in a base. -/
def valueOf (base : Nat) (digits : List Char) : Nat :=
  digits.foldl (fun n c => n * base + (hexValue? c).getD 0) 0

/-- An integer, if it fits 64 bits. -/
def int64? (n : Int) : Option Json :=
  if -(Nat.pow 2 63 : Int) ≤ n ∧ n < Nat.pow 2 63 then some (.int n) else none

/-- Reads an integer with the mark of a base. -/
def based? : List Char → Option (Json × List Char)
  | '0' :: 'x' :: rest => read 16 (fun c => (hexValue? c).isSome) rest
  | '0' :: 'o' :: rest => read 8 (fun c => '0' ≤ c && c ≤ '7') rest
  | '0' :: 'b' :: rest => read 2 (fun c => c = '0' || c = '1') rest
  | _ => none
where
  /-- Reads the digits of a base. -/
  read (base : Nat) (isDigit : Char → Bool) (cs : List Char) : Option (Json × List Char) := do
    let (digits, rest) ← digits? isDigit cs
    return (← int64? (valueOf base digits), rest)

/-- Takes a sign. -/
def takeSign : List Char → Bool × List Char
  | '-' :: rest => (true, rest)
  | '+' :: rest => (false, rest)
  | cs => (false, cs)

/-- Reads the decimals behind a point, if there is one. -/
def decimals? : List Char → Option (List Char × List Char)
  | '.' :: rest => digits? Char.isDigit rest
  | cs => some ([], cs)

/-- Reads an exponent, if there is one. -/
def exponent? : List Char → Option (Int × List Char)
  | c :: rest =>
    if c = 'e' || c = 'E' then do
      let (negative, rest) := takeSign rest
      let (digits, rest) ← digits? Char.isDigit rest
      let n : Int := valueOf 10 digits
      return (if negative then -n else n, rest)
    else some (0, c :: rest)
  | [] => some (0, [])

/-- Reads a decimal number: an integer, or with a point or an exponent a floating-point number. No
zero may stand before other digits. -/
def decimal? (cs : List Char) : Option (Json × List Char) := do
  let (negative, cs) := takeSign cs
  let (digits, rest) ← digits? Char.isDigit cs
  if digits.head? = some '0' && 1 < digits.length then none
  else match rest with
    | c :: _ =>
      if c = '.' || c = 'e' || c = 'E' then do
        let (decimals, rest) ← decimals? rest
        let (exponent, rest) ← exponent? rest
        let x ← Binary64.ofDecimal? negative (valueOf 10 (digits ++ decimals))
          (exponent - decimals.length)
        return (.double x, rest)
      else whole negative digits rest
    | [] => whole negative digits rest
where
  /-- An integer. -/
  whole (negative : Bool) (digits rest : List Char) : Option (Json × List Char) := do
    let n : Int := valueOf 10 digits
    return (← int64? (if negative then -n else n), rest)

/-- Reads an infinity or what is no number; they have no place in a value and stand as null. -/
def special? (cs : List Char) : Option (Json × List Char) :=
  match (takeSign cs).2 with
  | 'i' :: 'n' :: 'f' :: rest => some (.null, rest)
  | 'n' :: 'a' :: 'n' :: rest => some (.null, rest)
  | _ => none

/-- Reads a number of exactly two digits within bounds. -/
def twoDigits? (low high : Nat) : List Char → Option (Nat × List Char)
  | a :: b :: rest =>
    if a.isDigit && b.isDigit then
      let n := valueOf 10 [a, b]
      if low ≤ n && n ≤ high then some (n, rest) else none
    else none
  | _ => none

/-- The days of a month. -/
def daysIn (year month : Nat) : Nat :=
  if month = 2 then
    if (year % 4 = 0 && year % 100 ≠ 0) || year % 400 = 0 then 29 else 28
  else if month = 4 || month = 6 || month = 9 || month = 11 then 30 else 31

/-- Steps over a character. -/
def expect? (c : Char) : List Char → Option (List Char)
  | x :: rest => if x = c then some rest else none
  | [] => none

/-- Reads a day. -/
def day? (cs : List Char) : Option (List Char) := do
  let (century, cs) ← twoDigits? 0 99 cs
  let (year, cs) ← twoDigits? 0 99 cs
  let (month, cs) ← twoDigits? 1 12 (← expect? '-' cs)
  let (_, cs) ← twoDigits? 1 (daysIn (century * 100 + year) month) (← expect? '-' cs)
  return cs

/-- Reads a time of day. -/
def time? (cs : List Char) : Option (List Char) := do
  let (_, cs) ← twoDigits? 0 23 cs
  let (_, cs) ← twoDigits? 0 59 (← expect? ':' cs)
  let (_, cs) ← twoDigits? 0 60 (← expect? ':' cs)
  match cs with
  | '.' :: rest =>
    if rest.head?.any Char.isDigit then return rest.dropWhile Char.isDigit else none
  | _ => return cs

/-- Reads the distance from universal time, if there is one. -/
def offset? (cs : List Char) : Option (List Char) :=
  match cs with
  | 'Z' :: rest => some rest
  | 'z' :: rest => some rest
  | c :: rest =>
    if c = '+' || c = '-' then do
      let (_, cs) ← twoDigits? 0 24 rest
      let (_, cs) ← twoDigits? 0 59 (← expect? ':' cs)
      return cs
    else some cs
  | [] => some []

/-- Steps over a date or a time. -/
def skipDate? (cs : List Char) : Option (List Char) :=
  match day? cs with
  | some rest =>
    match rest with
    | c :: more =>
      if c = 'T' || c = 't' || (c = ' ' && more.head?.any Char.isDigit) then
        (time? more).bind offset?
      else some rest
    | [] => some []
  | none => time? cs

/-- The key under which a date is stored. -/
def dateKey : String := "$__toml_private_datetime"

/-- How a character of a date is written. -/
def dateChar (c : Char) : Char := if c = ' ' then 'T' else c.toUpper

/-- Reads a date or a time, which is a record with one text. -/
def date? (cs : List Char) : Option (Json × List Char) := do
  let rest ← skipDate? cs
  let text := (cs.take (cs.length - rest.length)).map dateChar
  return (.obj [(dateKey, .str (String.ofList text))], rest)

/-- Whether digits and the mark of a date or a time stand at the front. -/
def startsDate (cs : List Char) : Bool :=
  let digits := (cs.takeWhile Char.isDigit).length
  match cs.dropWhile Char.isDigit with
  | '-' :: _ => digits = 4
  | ':' :: _ => digits = 2
  | _ => false

/-- Reads a scalar. -/
def scalar? (cs : List Char) : Option (Json × List Char) :=
  match cs with
  | [] => none
  | 't' :: 'r' :: 'u' :: 'e' :: rest => some (.bool true, rest)
  | 'f' :: 'a' :: 'l' :: 's' :: 'e' :: rest => some (.bool false, rest)
  | c :: _ =>
    if c = '"' || c = '\'' then (string? cs).map fun (s, rest) => (.str s, rest)
    else if startsDate cs then date? cs
    else special? cs <|> based? cs <|> decimal? cs

end SemanticLayer.Toml
