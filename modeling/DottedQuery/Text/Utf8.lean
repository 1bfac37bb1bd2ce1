/-
# DottedQuery.Text.Utf8 -- bytes and the characters they spell

Bytes are decoded from left to right by one machine that remembers what the bytes of an
unfinished character still have to look like. An ill-formed part yields no character and
ends before the first byte that cannot continue it. Strict decoding refuses a text with an
ill-formed part; lossy decoding writes U+FFFD for each.
-/

namespace DottedQuery.Text

/-! ## One pass over the bytes -/

/-- An unfinished character: how many bytes it still needs, the range of the next of them,
and the bits read so far. -/
structure Unfinished where
  needed : Nat
  low : Nat
  high : Nat
  bits : Nat

/-- What a byte begins: a whole character, an unfinished one, or nothing. -/
inductive Lead where
  | whole (c : Char)
  | opens (part : Unfinished)
  | stray

/-- The role of a byte that is not inside a character. Overlong forms, surrogates and
numbers above U+10FFFF are excluded by the range of the second byte. -/
def Lead.ofByte (b : UInt8) : Lead :=
  let n := b.toNat
  if n < 0x80 then .whole (Char.ofNat n)
  else if n < 0xC2 then .stray
  else if n < 0xE0 then .opens ⟨1, 0x80, 0xBF, n - 0xC0⟩
  else if n < 0xF0 then
    .opens ⟨2, if n = 0xE0 then 0xA0 else 0x80, if n = 0xED then 0x9F else 0xBF, n - 0xE0⟩
  else if n < 0xF5 then
    .opens ⟨3, if n = 0xF0 then 0x90 else 0x80, if n = 0xF4 then 0x8F else 0xBF, n - 0xF0⟩
  else .stray

/-- The characters of a byte sequence in order, `none` for each ill-formed part. -/
def decodeParts : Option Unfinished → List UInt8 → List (Option Char)
  | none, [] => []
  | some _, [] => [none]
  | none, b :: rest =>
    match Lead.ofByte b with
    | .whole c => some c :: decodeParts none rest
    | .opens part => decodeParts (some part) rest
    | .stray => none :: decodeParts none rest
  | some part, b :: rest =>
    if part.low ≤ b.toNat ∧ b.toNat ≤ part.high then
      let bits := part.bits * 64 + (b.toNat - 0x80)
      if part.needed = 1 then some (Char.ofNat bits) :: decodeParts none rest
      else decodeParts (some ⟨part.needed - 1, 0x80, 0xBF, bits⟩) rest
    else
      none ::
        match Lead.ofByte b with
        | .whole c => some c :: decodeParts none rest
        | .opens next => decodeParts (some next) rest
        | .stray => none :: decodeParts none rest

/-! ## Strict and lossy decoding -/

/-- The text that the bytes spell, if all of them are well formed. -/
def ofUtf8? (bytes : List UInt8) : Option String :=
  ((decodeParts none bytes).mapM id).map String.ofList

/-- The text that the bytes spell, with U+FFFD for each ill-formed part. -/
def ofUtf8Lossy (bytes : List UInt8) : String :=
  String.ofList ((decodeParts none bytes).map (·.getD '\uFFFD'))

/-- The bytes that spell the text. -/
def toUtf8 (s : String) : List UInt8 := s.toList.flatMap String.utf8EncodeChar

end DottedQuery.Text
