/-!
Texts as sequences of bytes in UTF-8: how many bytes a text takes, its bytes, and the reading of
bytes back, which refuses anything that is not the shortest encoding of a Unicode scalar value.
-/
namespace SemanticLayer.Text

/-- The number of bytes of a character in UTF-8. -/
def byteWidth (c : Char) : Nat := c.utf8Size

/-- The number of bytes of a text in UTF-8. -/
def byteLength (s : String) : Nat :=
  (s.toList.map byteWidth).foldl (· + ·) 0

/-- The bytes of a text in UTF-8. -/
def toBytes (s : String) : List UInt8 := s.toUTF8.toList

/-- The payload of a continuation byte, which has the two high bits `10`. -/
def continuation? (b : UInt8) : Option Nat :=
  if 0x80 ≤ b && b < 0xC0 then some (b.toNat - 0x80) else none

/-- The first character of a sequence of bytes and the bytes after it. Overlong forms, surrogates
and numbers above U+10FFFF are refused. -/
def decodeChar? : List UInt8 → Option (Char × List UInt8)
  | [] => none
  | b₀ :: rest =>
    if b₀ < 0x80 then some (Char.ofNat b₀.toNat, rest)
    else if b₀ < 0xC2 then none
    else if b₀ < 0xE0 then
      match rest with
      | b₁ :: rest => (continuation? b₁).map fun x₁ =>
          (Char.ofNat ((b₀.toNat - 0xC0) * 64 + x₁), rest)
      | _ => none
    else if b₀ < 0xF0 then
      match rest with
      | b₁ :: b₂ :: rest =>
        match continuation? b₁, continuation? b₂ with
        | some x₁, some x₂ =>
          let n := ((b₀.toNat - 0xE0) * 64 + x₁) * 64 + x₂
          if n < 0x800 || (0xD800 ≤ n && n ≤ 0xDFFF) then none else some (Char.ofNat n, rest)
        | _, _ => none
      | _ => none
    else if b₀ < 0xF5 then
      match rest with
      | b₁ :: b₂ :: b₃ :: rest =>
        match continuation? b₁, continuation? b₂, continuation? b₃ with
        | some x₁, some x₂, some x₃ =>
          let n := (((b₀.toNat - 0xF0) * 64 + x₁) * 64 + x₂) * 64 + x₃
          if n < 0x10000 || 0x10FFFF < n then none else some (Char.ofNat n, rest)
        | _, _, _ => none
      | _ => none
    else none

/-- Reads at most `fuel` characters; every character takes at least one byte. -/
def decodeChars? : Nat → List UInt8 → Option (List Char)
  | _, [] => some []
  | 0, _ :: _ => none
  | fuel + 1, bytes =>
    match decodeChar? bytes with
    | none => none
    | some (c, rest) => (decodeChars? fuel rest).map (c :: ·)

/-- The text that the bytes encode, if they are valid UTF-8. -/
def ofBytes? (bytes : List UInt8) : Option String :=
  (decodeChars? bytes.length bytes).map String.ofList

end SemanticLayer.Text
