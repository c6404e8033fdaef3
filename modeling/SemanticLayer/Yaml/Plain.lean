import SemanticLayer.Number.Binary64
/-!
What a plain scalar stands for. The rules are those of the core schema of YAML 1.2: the spellings
of null and of the truth values, integers in four bases with a sign, decimal fractions with an
exponent, and infinities. Anything else is a string, also digits with leading zeros.
-/
namespace SemanticLayer.Yaml

/-- What a plain scalar stands for. -/
inductive Plain where
  | null
  | bool (value : Bool)
  /-- An integer of at most 64 bits, signed or unsigned. -/
  | int (value : Int)
  /-- An integer of more than 64 bits and at most 128. -/
  | wide (value : Int)
  | float (value : Binary64)
  /-- An infinity or not a number. -/
  | special (text : String)
  | str
  deriving DecidableEq, Repr

namespace Plain

/-- The value of a digit in bases up to sixteen. -/
def digitValue? (c : Char) : Option Nat :=
  if c.isDigit then some (c.toNat - 48)
  else if 'a' ≤ c ∧ c ≤ 'f' then some (c.toNat - 87)
  else if 'A' ≤ c ∧ c ≤ 'F' then some (c.toNat - 55)
  else none

/-- The value of the digits in a base, continuing from `value`. -/
def digitsFrom (base : Nat) : Nat → List Char → Option Nat
  | value, [] => some value
  | value, c :: rest =>
    match digitValue? c with
    | some d => if d < base then digitsFrom base (value * base + d) rest else none
    | none => none

/-- The value of at least one digit in a base. -/
def digits? (base : Nat) (cs : List Char) : Option Nat :=
  if cs.isEmpty then none else digitsFrom base 0 cs

/-- The value of digits that follow a base marker, or of decimal digits. -/
def magnitude? : List Char → Option Nat
  | '0' :: 'x' :: rest => digits? 16 rest
  | '0' :: 'o' :: rest => digits? 8 rest
  | '0' :: 'b' :: rest => digits? 2 rest
  | cs => digits? 10 cs

/-- The text without one sign at its front. -/
def unsigned : List Char → List Char
  | '-' :: rest => rest
  | '+' :: rest => rest
  | cs => cs

/-- Digits with a leading zero, which are a string and no number. -/
def isPaddedNumber (cs : List Char) : Bool :=
  match unsigned cs with
  | '0' :: c :: rest => (c :: rest).all Char.isDigit
  | _ => false

/-- An integer with its sign. -/
def integer? (cs : List Char) : Option Int :=
  if isPaddedNumber cs then none
  else match cs with
    | '-' :: rest => (magnitude? rest).map fun n => -(n : Int)
    | '+' :: rest => (magnitude? rest).map fun n => (n : Int)
    | cs => (magnitude? cs).map fun n => (n : Int)

/-- The signed exponent of a fraction, which is nothing or the letter `e` and digits. -/
def exponent? : List Char → Option Int
  | [] => some 0
  | c :: rest =>
    if c = 'e' ∨ c = 'E' then
      match rest with
      | '-' :: rest => (digits? 10 rest).map fun n => -(n : Int)
      | '+' :: rest => (digits? 10 rest).map fun n => (n : Int)
      | rest => (digits? 10 rest).map fun n => (n : Int)
    else none

/-- A decimal fraction without a sign: digits, a point and an exponent, with at least one digit
before or behind the point. -/
def fraction? (negative : Bool) (cs : List Char) : Option Binary64 :=
  let whole := cs.takeWhile Char.isDigit
  let rest := cs.dropWhile Char.isDigit
  let (decimals, rest) := match rest with
    | '.' :: rest => (rest.takeWhile Char.isDigit, rest.dropWhile Char.isDigit)
    | rest => ([], rest)
  if whole.isEmpty ∧ decimals.isEmpty then none
  else
    match digits? 10 (whole ++ decimals), exponent? rest with
    | some n, some e => Binary64.ofDecimal? negative n (e - decimals.length)
    | _, _ => none

/-- A decimal fraction with its sign. -/
def float? : List Char → Option Binary64
  | '-' :: rest => fraction? true rest
  | '+' :: rest => fraction? false rest
  | cs => fraction? false cs

/-- The spellings of the infinities and of what is no number. -/
def specials : List String :=
  [".inf", ".Inf", ".INF", "+.inf", "+.Inf", "+.INF", "-.inf", "-.Inf", "-.INF",
    ".nan", ".NaN", ".NAN"]

/-- What a plain scalar stands for. -/
def resolve (s : String) : Plain :=
  if ["", "null", "Null", "NULL", "~"].contains s then .null
  else if ["true", "True", "TRUE"].contains s then .bool true
  else if ["false", "False", "FALSE"].contains s then .bool false
  else
    let cs := s.toList
    match integer? cs with
    | some n =>
      if -(Nat.pow 2 63 : Int) ≤ n ∧ n < Nat.pow 2 64 then .int n
      else if -(Nat.pow 2 127 : Int) ≤ n ∧ n < Nat.pow 2 128 then .wide n
      else match float? cs with
        | some x => .float x
        | none => .str
    | none =>
      if isPaddedNumber cs then .str
      else if specials.contains s then .special s
      else match float? cs with
        | some x => .float x
        | none => .str

/-- A kind of value that a standard tag asks for. -/
inductive Kind where
  | bool | int | float | null
  deriving DecidableEq, Repr

/-- The kind that a tag asks for. -/
def Kind.ofTag? (tag : String) : Option Kind :=
  [("tag:yaml.org,2002:bool", .bool), ("tag:yaml.org,2002:int", .int),
    ("tag:yaml.org,2002:float", .float), ("tag:yaml.org,2002:null", .null)].lookup tag

/-- How messages name a kind. -/
def Kind.expected : Kind → String
  | .bool => "a boolean"
  | .int => "an integer"
  | .float => "a float"
  | .null => "null"

/-- What a scalar stands for whose tag asks for a kind, if it is of that kind. -/
def ofKind? (kind : Kind) (s : String) : Option Plain :=
  match kind, resolve s with
  | .bool, .bool b => some (.bool b)
  | .int, .int n => some (.int n)
  | .int, .wide n => some (.wide n)
  | .null, .null => if s.isEmpty then none else some .null
  | .float, .special text => some (.special text)
  | .float, _ => (float? s.toList).map .float
  | _, _ => none

/-- Whether a string would not be read back as a string if it were written as a plain scalar, or
might be taken for a number. -/
def isAmbiguous (s : String) : Bool :=
  resolve s != .str || isPaddedNumber s.toList

end Plain
end SemanticLayer.Yaml
