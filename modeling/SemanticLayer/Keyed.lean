/-!
Lists with an order. A keyed list holds pairs of a text and a value, sorted by the text, with no
text twice; a set of texts is such a list without values. Names are ordered by code points, which
is also the order of their bytes in UTF-8.
-/
namespace SemanticLayer

/-- Whether a text comes before another or is the same. -/
def textLe (a b : String) : Bool := !decide (b < a)

/-- Adds a text to a sorted set of texts. -/
def insertText (text : String) : List String → List String
  | [] => [text]
  | t :: rest =>
    if text < t then text :: t :: rest
    else if t < text then t :: insertText text rest
    else t :: rest

/-- The set of the texts in a list: each once, in increasing order. -/
def textSet (texts : List String) : List String :=
  texts.foldr insertText []

/-- The list in the order of a first and then of a second text of its members. Members with the
same two texts keep their order. -/
def sortedBy (first second : α → String) (xs : List α) : List α :=
  xs.mergeSort fun a b =>
    decide (first a < first b) || (first a == first b && textLe (second a) (second b))

namespace Keyed

/-- The value of a key. -/
def get? (key : String) : List (String × α) → Option α
  | [] => none
  | (k, v) :: rest => if k = key then some v else get? key rest

/-- Stores a value under a key; a value already there is replaced. -/
def insert (key : String) (value : α) : List (String × α) → List (String × α)
  | [] => [(key, value)]
  | (k, v) :: rest =>
    if key < k then (key, value) :: (k, v) :: rest
    else if k < key then (k, v) :: insert key value rest
    else (key, value) :: rest

/-- Stores a value under a key that has none yet. -/
def insertNew (key : String) (value : α) (entries : List (String × α)) : List (String × α) :=
  match get? key entries with
  | some _ => entries
  | none => insert key value entries

/-- The keyed list of some pairs; of a repeated key the last pair stays. -/
def ofList (pairs : List (String × α)) : List (String × α) :=
  pairs.foldl (fun entries pair => insert pair.1 pair.2 entries) []

end Keyed
end SemanticLayer
