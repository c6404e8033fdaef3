import SemanticLayer.Json.Basic
import SemanticLayer.Text.Ascii
/-!
Pointers into JSON values, after RFC 6901. A pointer is a list of keys and indices; in its text each
one follows a slash, with its own slashes and tildes escaped.
-/
namespace SemanticLayer.Json

/-- The keys and indices that lead from a value to a part of it. -/
abbrev Pointer := List String

namespace Pointer

/-- A key or an index as it is written in a pointer: its tildes are escaped, and then its slashes. -/
def escape (segment : String) : List Char :=
  Text.replaceChar '/' ['~', '1'] (Text.replaceChar '~' ['~', '0'] segment.toList)

/-- The text of a pointer. -/
def render (p : Pointer) : String :=
  String.ofList (p.flatMap fun segment => '/' :: escape segment)

/-- The segment that is written so, if its tildes are escapes. -/
def unescape? : List Char → Option (List Char)
  | [] => some []
  | '~' :: '0' :: rest => (unescape? rest).map ('~' :: ·)
  | '~' :: '1' :: rest => (unescape? rest).map ('/' :: ·)
  | c :: rest => if c = '~' then none else (unescape? rest).map (c :: ·)

/-- The pointer of a text. -/
def parse? (text : String) : Option Pointer :=
  match text.toList with
  | [] => some []
  | '/' :: rest =>
    (Text.splitAtChar '/' rest).mapM fun piece => (unescape? piece).map String.ofList
  | _ => none

/-- The index that a segment stands for: decimal digits without a leading zero. -/
def index? (segment : String) : Option Nat :=
  match segment.toList with
  | [] => none
  | '0' :: _ :: _ => none
  | cs =>
    if cs.all Char.isDigit then some (cs.foldl (fun n c => n * 10 + (c.toNat - 48)) 0) else none

/-- The member or the item that a segment names. -/
def step? (v : Json) (segment : String) : Option Json :=
  match v with
  | .obj members => Keyed.get? segment members
  | .arr items => (index? segment).bind fun i => items[i]?
  | _ => none

/-- The part of a value that a pointer leads to. -/
def resolve? (v : Json) : Pointer → Option Json
  | [] => some v
  | segment :: rest => (step? v segment).bind fun part => resolve? part rest

end Pointer
end SemanticLayer.Json
