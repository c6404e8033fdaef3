import SemanticLayer.Json.Reader
import SemanticLayer.Shape
/-!
Reading a JSON text whose value is of a known shape. A fault is noticed where the reader stands: a
value of another kind behind it, except that an array or an object is not entered; a missing field
behind the end of the record; and a repeated field behind its key. A record may be an array of its
fields in their order.
-/
namespace SemanticLayer.Json

/-- A value of another kind stands at the cursor. -/
def mismatched (shape : Shape) (c : Cursor) : Fault :=
  let fault (found : String) (c : Cursor) : Fault :=
    c.here (.shape (Shape.mismatch found shape.expected))
  let afterWord (letters : List Char) (found : String) : Fault :=
    match c.step.word letters with
    | .error f => f
    | .ok c => fault found c
  let afterNumeral (negative : Bool) (c : Cursor) : Fault :=
    match readNumeral negative c with
    | .error f => f
    | .ok (.unsigned n, c) => fault (Shape.foundInt n) c
    | .ok (.negative n, c) => fault (Shape.foundInt (-(n : Int))) c
    | .ok (.double x, c) => fault s!"floating point `{x.render}`" c
  match c.rest with
  | 'n' :: _ => afterWord ['u', 'l', 'l'] "null"
  | 't' :: _ => afterWord ['r', 'u', 'e'] (Shape.foundBool true)
  | 'f' :: _ => afterWord ['a', 'l', 's', 'e'] (Shape.foundBool false)
  | '-' :: _ => afterNumeral true c.step
  | '"' :: _ =>
    match readString c.step with
    | .error f => f
    | .ok (s, c) => fault (Shape.foundText s) c
  | '[' :: _ => fault "sequence" c
  | '{' :: _ => fault "map" c
  | x :: _ => if x.isDigit then afterNumeral false c else c.ahead .expectedValue
  | [] => c.ahead .expectedValue

/-- Steps over the end of an array that should have no more items. -/
def closeList (c : Cursor) : Except Fault Cursor :=
  let c := c.skip
  match c.rest with
  | [] => .error (c.ahead .eofInList)
  | ']' :: _ => .ok c.step
  | ',' :: _ =>
    let c := c.step.skip
    match c.rest with
    | ']' :: _ => .error (c.ahead .trailingComma)
    | _ => .error (c.ahead .trailingCharacters)
  | _ :: _ => .error (c.ahead .trailingCharacters)

/-- How many fields a record has, as messages say it. -/
def fieldCount (name : String) (count : Nat) : String :=
  s!"struct {name} with {count} element" ++ if count = 1 then "" else "s"

mutual
/-- Reads a value of a shape. -/
def readOfShape : Nat → Nat → Shape → Cursor → Except Fault (Json × Cursor)
  | 0, _, _, c => .error (c.here .recursionLimit)
  | fuel + 1, depth, shape, c =>
    let c := c.skip
    match c.rest with
    | [] => .error (c.ahead .eofInValue)
    | x :: _ =>
      match shape with
      | .text =>
        if x = '"' then do
          let (s, c) ← readString c.step
          return (.str s, c)
        else .error (mismatched shape c)
      | .flag =>
        if x = 't' then do return (.bool true, ← c.step.word ['r', 'u', 'e'])
        else if x = 'f' then do return (.bool false, ← c.step.word ['a', 'l', 's', 'e'])
        else .error (mismatched shape c)
      | .optional inner =>
        if x = 'n' then do return (.null, ← c.step.word ['u', 'l', 'l'])
        else readOfShape fuel depth inner c
      | .list item =>
        if x = '[' then do
          let (depth, c) ← enter depth c
          let (items, c) ← readItemsOfShape fuel depth item true c
          return (.arr items, c)
        else .error (mismatched shape c)
      | .record name fields =>
        if x = '{' then do
          let (depth, c) ← enter depth c
          let (members, c) ← readFields fuel depth fields [] true c
          match Shape.missing? fields (members.map (·.1)) with
          | some field => .error (c.here (.shape (Shape.missingField field)))
          | none => return (.obj members, c)
        else if x = '[' then do
          let (depth, c) ← enter depth c
          let (items, c) ← readPositions fuel depth name fields.length 0 fields c
          return (.arr items, c)
        else .error (mismatched shape c)
/-- Reads the items of a list and its closing bracket. -/
def readItemsOfShape : Nat → Nat → Shape → Bool → Cursor → Except Fault (List Json × Cursor)
  | 0, _, _, _, c => .error (c.here .recursionLimit)
  | fuel + 1, depth, shape, first, c => do
    let (more, c) ← nextItem first c
    if more then
      let (v, c) ← readOfShape fuel depth shape c
      let (vs, c) ← readItemsOfShape fuel depth shape false c
      return (v :: vs, c)
    else return ([], c.step)
/-- Reads the fields of a record by their names and its closing bracket; `done` are the names so
far. Members of other names are read and left out. -/
def readFields : Nat → Nat → List (String × Bool × Shape) → List String → Bool → Cursor →
    Except Fault (List (String × Json) × Cursor)
  | 0, _, _, _, _, c => .error (c.here .recursionLimit)
  | fuel + 1, depth, fields, done, first, c => do
    let (more, c) ← nextMember first c
    if more then
      let (key, c) ← readString c.step
      match Keyed.get? key fields with
      | none =>
        let c ← colon c
        let (_, c) ← readValue fuel depth c
        readFields fuel depth fields done false c
      | some (_, shape) =>
        if done.contains key then
          .error (c.skip.here (.shape (Shape.duplicateField key)))
        else
          let c ← colon c
          let (v, c) ← readOfShape fuel depth shape c
          let (ms, c) ← readFields fuel depth fields (key :: done) false c
          return ((key, v) :: ms, c)
    else return ([], c.step)
/-- Reads the fields of a record by their positions and its closing bracket. -/
def readPositions : Nat → Nat → String → Nat → Nat → List (String × Bool × Shape) → Cursor →
    Except Fault (List Json × Cursor)
  | 0, _, _, _, _, _, c => .error (c.here .recursionLimit)
  | _ + 1, _, _, _, _, [], c => do return ([], ← closeList c)
  | fuel + 1, depth, name, count, index, (field, must, shape) :: fields, c => do
    let (more, c) ← nextItem (index = 0) c
    if more then
      let (v, c) ← readOfShape fuel depth shape c
      let (vs, c) ← readPositions fuel depth name count (index + 1) fields c
      return (v :: vs, c)
    else if (Shape.requiredFields ((field, must, shape) :: fields)).isEmpty then
      return ([], c.step)
    else
      let given := index + (((field, must, shape) :: fields).takeWhile (!·.2.1)).length
      .error (c.step.here (.shape s!"invalid length {given}, expected {fieldCount name count}"))
end

/-- Reads a text that holds one value of a shape. -/
def readShaped (shape : Shape) (text : String) : Except Fault Json := do
  let c := Cursor.start text.toList
  let (v, c) ← readOfShape (2 * c.rest.length + 8) depthLimit shape c
  endOfText c
  return v

end SemanticLayer.Json
