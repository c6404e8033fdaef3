import SemanticLayer.Text.Utf8
import SemanticLayer.Number.Binary64
/-!
A place in a JSON text, and the reading of the smallest pieces of it: white space, words, numbers
and strings. A fault names its cause and the line and column where it was noticed; a column counts
the bytes of the line read so far, so most faults point one past the last byte looked at.
-/
namespace SemanticLayer.Json

/-- Why a text is not JSON, or not of the wanted shape. -/
inductive Cause where
  | eofInList | eofInObject | eofInString | eofInValue
  | expectedColon | expectedCommaOrListEnd | expectedCommaOrObjectEnd
  | expectedWord | expectedValue
  | invalidEscape | invalidNumber | numberOutOfRange
  | controlCharacter | keyMustBeString | loneSurrogate | endOfHexEscape
  | trailingComma | trailingCharacters | recursionLimit
  | shape (message : String)
  deriving DecidableEq, Repr

/-- The wording of a cause. -/
def Cause.message : Cause → String
  | .eofInList => "EOF while parsing a list"
  | .eofInObject => "EOF while parsing an object"
  | .eofInString => "EOF while parsing a string"
  | .eofInValue => "EOF while parsing a value"
  | .expectedColon => "expected `:`"
  | .expectedCommaOrListEnd => "expected `,` or `]`"
  | .expectedCommaOrObjectEnd => "expected `,` or `\x7d`"
  | .expectedWord => "expected ident"
  | .expectedValue => "expected value"
  | .invalidEscape => "invalid escape"
  | .invalidNumber => "invalid number"
  | .numberOutOfRange => "number out of range"
  | .controlCharacter => "control character (\\u0000-\\u001F) found while parsing a string"
  | .keyMustBeString => "key must be a string"
  | .loneSurrogate => "lone leading surrogate in hex escape"
  | .endOfHexEscape => "unexpected end of hex escape"
  | .trailingComma => "trailing comma"
  | .trailingCharacters => "trailing characters"
  | .recursionLimit => "recursion limit exceeded"
  | .shape message => message

/-- A fault at a line and a column. -/
structure Fault where
  cause : Cause
  line : Nat
  column : Nat
  deriving DecidableEq, Repr

/-- The wording of a fault. -/
def Fault.message (f : Fault) : String :=
  s!"{f.cause.message} at line {f.line} column {f.column}"

/-- What is left of a text, and the line and column of its first character. -/
structure Cursor where
  rest : List Char
  line : Nat
  column : Nat
  deriving Repr

namespace Cursor

/-- The start of a text. -/
def start (text : List Char) : Cursor := ⟨text, 1, 0⟩

/-- The cursor behind the next character. -/
def step (c : Cursor) : Cursor :=
  match c.rest with
  | [] => c
  | '\n' :: rest => ⟨rest, c.line + 1, 0⟩
  | x :: rest => ⟨rest, c.line, c.column + x.utf8Size⟩

/-- A fault at what was read so far. -/
def here (c : Cursor) (cause : Cause) : Fault := ⟨cause, c.line, c.column⟩

/-- A fault at the next byte. -/
def ahead (c : Cursor) (cause : Cause) : Fault :=
  match c.rest with
  | [] => ⟨cause, c.line, c.column⟩
  | '\n' :: _ => ⟨cause, c.line + 1, 0⟩
  | _ :: _ => ⟨cause, c.line, c.column + 1⟩

/-- The line and column `count` bytes further on; a character may be cut. -/
def positionAfter : Nat → List Char → Nat → Nat → Nat × Nat
  | 0, _, line, column => (line, column)
  | _, [], line, column => (line, column)
  | count + 1, x :: rest, line, column =>
    if x = '\n' then positionAfter count rest (line + 1) 0
    else if x.utf8Size ≤ count + 1 then
      positionAfter (count + 1 - x.utf8Size) rest line (column + x.utf8Size)
    else (line, column + count + 1)
termination_by _ chars => chars.length

/-- A fault `count` bytes further on. -/
def beyond (c : Cursor) (count : Nat) (cause : Cause) : Fault :=
  let (line, column) := positionAfter count c.rest c.line c.column
  ⟨cause, line, column⟩

/-- The cursor at the end of the text. -/
def atEnd (c : Cursor) : Cursor :=
  let bytes := (c.rest.map Char.utf8Size).foldl (· + ·) 0
  let (line, column) := positionAfter bytes c.rest c.line c.column
  ⟨[], line, column⟩

/-- White space between the tokens of JSON. -/
def isSpace (x : Char) : Bool := x = ' ' || x = '\n' || x = '\t' || x = '\r'

/-- Steps over the characters in `rest`, which stand at the cursor, as long as they are spaces. -/
def skipSpaces (rest : List Char) (line column : Nat) : Cursor :=
  match rest with
  | [] => ⟨[], line, column⟩
  | x :: tail =>
    if isSpace x then
      if x = '\n' then skipSpaces tail (line + 1) 0 else skipSpaces tail line (column + 1)
    else ⟨x :: tail, line, column⟩

/-- The cursor at the next character that is not white space. -/
def skip (c : Cursor) : Cursor := skipSpaces c.rest c.line c.column

/-- Reads the letters of a word. -/
def word (letters : List Char) (c : Cursor) : Except Fault Cursor :=
  match letters with
  | [] => .ok c
  | letter :: letters =>
    match c.rest with
    | [] => .error (c.here .eofInValue)
    | x :: _ => if x = letter then word letters c.step else .error (c.beyond 1 .expectedWord)

end Cursor

/-- A number as it was written: an integer of at most 64 bits, or a floating-point number. -/
inductive Numeral where
  | unsigned (n : Nat)
  | negative (n : Nat)
  | double (x : Binary64)

/-- The largest unsigned integer of 64 bits. -/
def maxUnsigned : Nat := Nat.pow 2 64 - 1

/-- The value of a decimal digit. -/
def digit? (x : Char) : Option Nat :=
  if x.isDigit then some (x.toNat - 48) else none

/-- The powers of ten that scale a significand, each rounded once; the largest is `10 ^ 308`. -/
def powerOfTen (n : Nat) : Binary64 := (Binary64.ofNat? (Nat.pow 10 n)).getD default

/-- Divides by `10 ^ 308` while the exponent is out of the reach of one division. -/
def scaleDown : Nat → Binary64 → Int → Binary64 × Int
  | 0, x, exponent => (x, exponent)
  | fuel + 1, x, exponent =>
    if -308 ≤ exponent ∨ x.isZero then (x, exponent)
    else scaleDown fuel ((x.div? (powerOfTen 308)).getD default) (exponent + 308)

/-- The number `significand · 10 ^ exponent` with at most three roundings: of the significand, of
the power of ten and of their product or quotient. Nothing if it is out of range. -/
def scaled? (negative : Bool) (significand : Nat) (exponent : Int) : Option Binary64 :=
  match Binary64.ofNat? significand with
  | none => none
  | some x =>
    if 308 < exponent then
      if x.isZero then some (x.withSign negative) else none
    else if 0 ≤ exponent then
      (x.mul? (powerOfTen exponent.toNat)).map (·.withSign negative)
    else
      let (y, rest) := scaleDown 4 x exponent
      if y.isZero then some (y.withSign negative)
      else (y.div? (powerOfTen rest.natAbs)).map (·.withSign negative)

/-- A floating-point numeral, or the fault that its value is out of range. -/
def scaledNumeral (negative : Bool) (significand : Nat) (exponent : Int) (c : Cursor) :
    Except Fault (Numeral × Cursor) :=
  match scaled? negative significand exponent with
  | some x => .ok (.double x, c)
  | none => .error (c.here .numberOutOfRange)

/-- Steps over digits. -/
def skipDigits (rest : List Char) (c : Cursor) : Cursor :=
  match rest with
  | [] => c
  | x :: tail => if x.isDigit then skipDigits tail c.step else c

/-- Reads the digits of an exponent; `none` for the value stands for one of more than 31 bits. -/
def exponentDigits (rest : List Char) (value : Nat) (c : Cursor) : Option Nat × Cursor :=
  match rest with
  | [] => (some value, c)
  | x :: tail =>
    match digit? x with
    | none => (some value, c)
    | some d =>
      if value * 10 + d ≤ Nat.pow 2 31 - 1 then exponentDigits tail (value * 10 + d) c.step
      else (none, c.step)

/-- Reads an exponent, the cursor being behind the letter. -/
def readExponent (negative : Bool) (significand : Nat) (exponent : Int) (c : Cursor) :
    Except Fault (Numeral × Cursor) :=
  let (down, c) := match c.rest with
    | '+' :: _ => (false, c.step)
    | '-' :: _ => (true, c.step)
    | _ => (false, c)
  match c.rest with
  | [] => .error (c.here .eofInValue)
  | x :: tail =>
    match digit? x with
    | none => .error (c.beyond 1 .invalidNumber)
    | some d =>
      match exponentDigits tail d c.step with
      | (some value, c) =>
        scaledNumeral negative significand (if down then exponent - value else exponent + value) c
      | (none, c) =>
        if significand ≠ 0 ∧ ¬ down then .error (c.here .numberOutOfRange)
        else .ok (.double (Binary64.zero negative), skipDigits c.rest c)

/-- Ends a numeral whose digits are read, unless an exponent follows. -/
def afterDigits (negative : Bool) (significand : Nat) (exponent : Int) (c : Cursor) :
    Except Fault (Numeral × Cursor) :=
  match c.rest with
  | 'e' :: _ => readExponent negative significand exponent c.step
  | 'E' :: _ => readExponent negative significand exponent c.step
  | _ => scaledNumeral negative significand exponent c

/-- Reads the digits behind the point into the significand as long as it fits 64 bits, and steps
over the rest. Gives the significand, how many digits went into it, and whether it was full. -/
def fractionDigits (rest : List Char) (significand taken : Nat) (c : Cursor) :
    Nat × Nat × Bool × Cursor :=
  match rest with
  | [] => (significand, taken, false, c)
  | x :: tail =>
    match digit? x with
    | none => (significand, taken, false, c)
    | some d =>
      if significand * 10 + d ≤ maxUnsigned then
        fractionDigits tail (significand * 10 + d) (taken + 1) c.step
      else (significand, taken, true, skipDigits (x :: tail) c)

/-- Reads a fraction, the cursor being behind the point. -/
def readFraction (negative : Bool) (significand : Nat) (exponent : Int) (c : Cursor) :
    Except Fault (Numeral × Cursor) :=
  let (significand, taken, full, c') := fractionDigits c.rest significand 0 c
  if taken = 0 ∧ full = false then
    match c'.rest with
    | [] => .error (c'.ahead .eofInValue)
    | _ :: _ => .error (c'.ahead .invalidNumber)
  else afterDigits negative significand (exponent - taken) c'

/-- Reads the digits of an integer as long as it fits 64 bits; the flag says whether it did. -/
def integerDigits (rest : List Char) (value : Nat) (c : Cursor) : Nat × Bool × Cursor :=
  match rest with
  | [] => (value, true, c)
  | x :: tail =>
    match digit? x with
    | none => (value, true, c)
    | some d =>
      if value * 10 + d ≤ maxUnsigned then integerDigits tail (value * 10 + d) c.step
      else (value, false, c)

/-- The number of digits at the front, and the cursor behind them. -/
def countDigits (rest : List Char) (count : Nat) (c : Cursor) : Nat × Cursor :=
  match rest with
  | [] => (count, c)
  | x :: tail => if x.isDigit then countDigits tail (count + 1) c.step else (count, c)

/-- Ends a numeral whose integer digits are read. -/
def afterInteger (negative : Bool) (value : Nat) (fits : Bool) (c : Cursor) :
    Except Fault (Numeral × Cursor) :=
  if fits then
    match c.rest with
    | '.' :: _ => readFraction negative value 0 c.step
    | 'e' :: _ => readExponent negative value 0 c.step
    | 'E' :: _ => readExponent negative value 0 c.step
    | _ =>
      if negative then
        if value = 0 ∨ Nat.pow 2 63 < value then
          .ok (.double ((Binary64.ofRatio? true value 1).getD default), c)
        else .ok (.negative value, c)
      else .ok (.unsigned value, c)
  else
    let (more, c) := countDigits c.rest 0 c
    match c.rest with
    | '.' :: _ => readFraction negative value more c.step
    | _ => afterDigits negative value more c

/-- Reads a number, the cursor being behind its sign. -/
def readNumeral (negative : Bool) (c : Cursor) : Except Fault (Numeral × Cursor) :=
  match c.rest with
  | [] => .error (c.here .eofInValue)
  | x :: tail =>
    match digit? x with
    | none => .error (c.beyond 1 .invalidNumber)
    | some 0 =>
      match tail with
      | y :: _ => if y.isDigit then .error (c.step.ahead .invalidNumber)
        else afterInteger negative 0 true c.step
      | [] => afterInteger negative 0 true c.step
    | some d =>
      let (value, fits, c) := integerDigits tail d c.step
      afterInteger negative value fits c

/-- The value of a hexadecimal digit. -/
def hexValue? (x : Char) : Option Nat :=
  if x.isDigit then some (x.toNat - 48)
  else if 'a' ≤ x ∧ x ≤ 'f' then some (x.toNat - 87)
  else if 'A' ≤ x ∧ x ≤ 'F' then some (x.toNat - 55)
  else none

/-- Reads the four digits of an escape. -/
def hexEscape (c : Cursor) : Except Fault (Nat × Cursor) :=
  match c.rest with
  | a :: b :: d :: e :: _ =>
    match hexValue? a, hexValue? b, hexValue? d, hexValue? e with
    | some a, some b, some d, some e =>
      .ok (((a * 16 + b) * 16 + d) * 16 + e, c.step.step.step.step)
    | _, _, _, _ => .error (c.beyond 4 .invalidEscape)
  | short =>
    if 4 ≤ (short.map Char.utf8Size).foldl (· + ·) 0 then .error (c.beyond 4 .invalidEscape)
    else .error (c.atEnd.here .eofInString)

/-- Reads the rest of an escape of a code unit; a leading surrogate takes a trailing one. -/
def unicodeEscape (c : Cursor) : Except Fault (Char × Cursor) := do
  let (first, c) ← hexEscape c
  if 0xDC00 ≤ first ∧ first ≤ 0xDFFF then .error (c.here .loneSurrogate)
  else if first < 0xD800 ∨ 0xDBFF < first then return (Char.ofNat first, c)
  else
    match c.rest with
    | [] => .error (c.here .eofInString)
    | '\\' :: _ =>
      let c := c.step
      match c.rest with
      | [] => .error (c.here .eofInString)
      | 'u' :: _ =>
        let (second, c) ← hexEscape c.step
        if second < 0xDC00 ∨ 0xDFFF < second then .error (c.here .loneSurrogate)
        else return (Char.ofNat (0x10000 + (first - 0xD800) * 0x400 + (second - 0xDC00)), c)
      | _ :: _ => .error (c.beyond 1 .endOfHexEscape)
    | _ :: _ => .error (c.beyond 1 .endOfHexEscape)

/-- Reads an escape, the cursor being behind the backslash. -/
def readEscape (c : Cursor) : Except Fault (Char × Cursor) :=
  match c.rest with
  | [] => .error (c.here .eofInString)
  | '"' :: _ => .ok ('"', c.step)
  | '\\' :: _ => .ok ('\\', c.step)
  | '/' :: _ => .ok ('/', c.step)
  | 'b' :: _ => .ok ('\x08', c.step)
  | 'f' :: _ => .ok ('\x0c', c.step)
  | 'n' :: _ => .ok ('\n', c.step)
  | 'r' :: _ => .ok ('\r', c.step)
  | 't' :: _ => .ok ('\t', c.step)
  | 'u' :: _ => unicodeEscape c.step
  | _ :: _ => .error (c.beyond 1 .invalidEscape)

/-- Reads the characters of a string up to the closing quote. Every round takes at least one
character and one element of `fuel`, so the characters at the cursor are fuel enough. -/
def stringChars : List Char → Cursor → Except Fault (List Char × Cursor)
  | [], c => .error (c.here .eofInString)
  | _ :: fuel, c =>
    match c.rest with
    | [] => .error (c.here .eofInString)
    | '"' :: _ => .ok ([], c.step)
    | '\\' :: _ => do
      let (x, c) ← readEscape c.step
      let (xs, c) ← stringChars fuel c
      return (x :: xs, c)
    | x :: _ =>
      if x.toNat < 0x20 then .error (c.step.here .controlCharacter)
      else do
        let (xs, c) ← stringChars fuel c.step
        return (x :: xs, c)

/-- Reads a string, the cursor being behind the opening quote. -/
def readString (c : Cursor) : Except Fault (String × Cursor) := do
  let (chars, c) ← stringChars c.rest c
  return (String.ofList chars, c)

end SemanticLayer.Json
