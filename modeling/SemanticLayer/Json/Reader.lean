import SemanticLayer.Json.Basic
import SemanticLayer.Json.Cursor
/-!
Reading JSON texts. Arrays and objects may be nested at most 127 deep. The keys of an object that
was read are in increasing order, and of a repeated key the last member counts.
-/
namespace SemanticLayer.Json

/-- How deep arrays and objects may be nested, plus one. -/
def depthLimit : Nat := 128

/-- The value of a numeral. -/
def ofNumeral : Numeral → Json
  | .unsigned n => .int n
  | .negative n => .int (-(n : Int))
  | .double x => .double x

/-- Steps over the opening bracket of an array or an object, one level down. -/
def enter (depth : Nat) (c : Cursor) : Except Fault (Nat × Cursor) :=
  match depth with
  | 0 => .error (c.ahead .recursionLimit)
  | 1 => .error (c.ahead .recursionLimit)
  | depth + 1 => .ok (depth, c.step)

/-- What stands before the next item of an array: an item, or its end. -/
def nextItem (first : Bool) (c : Cursor) : Except Fault (Bool × Cursor) :=
  let c := c.skip
  match c.rest with
  | [] => .error (c.ahead .eofInList)
  | ']' :: _ => .ok (false, c)
  | x :: _ =>
    if first then .ok (true, c)
    else if x = ',' then
      let c := c.step.skip
      match c.rest with
      | [] => .error (c.ahead .eofInValue)
      | ']' :: _ => .error (c.ahead .trailingComma)
      | _ :: _ => .ok (true, c)
    else .error (c.ahead .expectedCommaOrListEnd)

/-- What stands before the next member of an object: a key, or its end. -/
def nextMember (first : Bool) (c : Cursor) : Except Fault (Bool × Cursor) :=
  let c := c.skip
  match c.rest with
  | [] => .error (c.ahead .eofInObject)
  | '}' :: _ => .ok (false, c)
  | x :: _ =>
    if first then
      if x = '"' then .ok (true, c) else .error (c.ahead .keyMustBeString)
    else if x = ',' then
      let c := c.step.skip
      match c.rest with
      | [] => .error (c.ahead .eofInValue)
      | '"' :: _ => .ok (true, c)
      | '}' :: _ => .error (c.ahead .trailingComma)
      | _ :: _ => .error (c.ahead .keyMustBeString)
    else .error (c.ahead .expectedCommaOrObjectEnd)

/-- Steps over the colon behind a key. -/
def colon (c : Cursor) : Except Fault Cursor :=
  let c := c.skip
  match c.rest with
  | [] => .error (c.ahead .eofInObject)
  | ':' :: _ => .ok c.step
  | _ :: _ => .error (c.ahead .expectedColon)

mutual
/-- Reads a value. -/
def readValue : Nat → Nat → Cursor → Except Fault (Json × Cursor)
  | 0, _, c => .error (c.here .recursionLimit)
  | fuel + 1, depth, c =>
    let c := c.skip
    match c.rest with
    | [] => .error (c.ahead .eofInValue)
    | 'n' :: _ => do return (.null, ← c.step.word ['u', 'l', 'l'])
    | 't' :: _ => do return (.bool true, ← c.step.word ['r', 'u', 'e'])
    | 'f' :: _ => do return (.bool false, ← c.step.word ['a', 'l', 's', 'e'])
    | '-' :: _ => do
      let (n, c) ← readNumeral true c.step
      return (ofNumeral n, c)
    | '"' :: _ => do
      let (s, c) ← readString c.step
      return (.str s, c)
    | '[' :: _ => do
      let (depth, c) ← enter depth c
      let (items, c) ← readItems fuel depth true c
      return (.arr items, c)
    | '{' :: _ => do
      let (depth, c) ← enter depth c
      let (members, c) ← readMembers fuel depth true c
      return (object members, c)
    | x :: _ =>
      if x.isDigit then do
        let (n, c) ← readNumeral false c
        return (ofNumeral n, c)
      else .error (c.ahead .expectedValue)
/-- Reads the items of an array and its closing bracket. -/
def readItems : Nat → Nat → Bool → Cursor → Except Fault (List Json × Cursor)
  | 0, _, _, c => .error (c.here .recursionLimit)
  | fuel + 1, depth, first, c => do
    let (more, c) ← nextItem first c
    if more then
      let (v, c) ← readValue fuel depth c
      let (vs, c) ← readItems fuel depth false c
      return (v :: vs, c)
    else return ([], c.step)
/-- Reads the members of an object and its closing bracket. -/
def readMembers : Nat → Nat → Bool → Cursor → Except Fault (List (String × Json) × Cursor)
  | 0, _, _, c => .error (c.here .recursionLimit)
  | fuel + 1, depth, first, c => do
    let (more, c) ← nextMember first c
    if more then
      let (k, c) ← readString c.step
      let c ← colon c
      let (v, c) ← readValue fuel depth c
      let (ms, c) ← readMembers fuel depth false c
      return ((k, v) :: ms, c)
    else return ([], c.step)
end

/-- Only white space may follow a value. -/
def endOfText (c : Cursor) : Except Fault Unit :=
  let c := c.skip
  match c.rest with
  | [] => .ok ()
  | _ :: _ => .error (c.ahead .trailingCharacters)

/-- Reads a text that holds one value. Each value, item and member takes a character of its own, so
twice the length of the text is enough fuel. -/
def read (text : String) : Except Fault Json := do
  let c := Cursor.start text.toList
  let (v, c) ← readValue (2 * c.rest.length + 2) depthLimit c
  endOfText c
  return v

end SemanticLayer.Json
