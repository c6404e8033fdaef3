/-!
Letter case of the ASCII letters. Every other character is its own lower and upper case here, so
two names agree without regard to case exactly when their lower-case forms are equal.
-/
namespace SemanticLayer.Text

/-- The text with `A` to `Z` in lower case. -/
def asciiLower (s : String) : String :=
  String.ofList (s.toList.map Char.toLower)

/-- The text with `a` to `z` in upper case. -/
def asciiUpper (s : String) : String :=
  String.ofList (s.toList.map Char.toUpper)

/-- Whether two texts are equal when the case of ASCII letters is ignored. -/
def sameIgnoringCase (s t : String) : Bool :=
  asciiLower s == asciiLower t

/-- Whether `start` stands at the front of a list of characters. -/
def startsWith (start text : List Char) : Bool :=
  start.isPrefixOf text

/-- Whether `part` occurs in a list of characters. -/
def containsPart (part : List Char) : List Char → Bool
  | [] => part.isEmpty
  | c :: rest => part.isPrefixOf (c :: rest) || containsPart part rest

/-- Every occurrence of the character `c` replaced by the characters `new`. -/
def replaceChar (c : Char) (new : List Char) (text : List Char) : List Char :=
  text.flatMap fun x => if x = c then new else [x]

/-- The texts with `separator` between neighbours. -/
def join (separator : String) : List String → String
  | [] => ""
  | [s] => s
  | s :: rest => s ++ separator ++ join separator rest

/-- The pieces of a list of characters between the occurrences of `c`; there is always one. -/
def splitAtChar (c : Char) : List Char → List (List Char)
  | [] => [[]]
  | x :: rest =>
    if x = c then [] :: splitAtChar c rest
    else match splitAtChar c rest with
      | [] => [[x]]
      | piece :: pieces => (x :: piece) :: pieces

end SemanticLayer.Text
