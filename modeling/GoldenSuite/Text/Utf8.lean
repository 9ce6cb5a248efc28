/-!
# Bytes and UTF-8

File contents and what a program writes are bytes. This module turns texts into their UTF-8
bytes and bytes back into texts: strictly, where anything that is not UTF-8 is refused, and
leniently, where every maximal piece that is not UTF-8 becomes one replacement character.
-/

namespace GoldenSuite

/-- The contents of a file or of an output stream. -/
abbrev Bytes := List UInt8

namespace Text

/-! ### Encoding -/

/-- The UTF-8 bytes of a text. -/
def encode (text : String) : Bytes :=
  text.toUTF8.data.toList

/-- The number of bytes that a character takes up. -/
def byteWidth (chars : List Char) : Nat :=
  (chars.map Char.utf8Size).foldr (· + ·) 0

/-! ### Decoding -/

/-- Whether a byte is a continuation byte within the given bounds. -/
def within (low high byte : UInt8) : Bool :=
  low ≤ byte && byte ≤ high

/-- How a multi-byte sequence goes on after its first byte: the number of bytes still to come
and the bounds of the first of them, which rule out overlong forms, surrogates and code points
that are too large. -/
def continuation (first : UInt8) : Option (Nat × UInt8 × UInt8) :=
  if within 0xC2 0xDF first then some (1, 0x80, 0xBF)
  else if first = 0xE0 then some (2, 0xA0, 0xBF)
  else if first = 0xED then some (2, 0x80, 0x9F)
  else if within 0xE1 0xEF first then some (2, 0x80, 0xBF)
  else if first = 0xF0 then some (3, 0x90, 0xBF)
  else if first = 0xF4 then some (3, 0x80, 0x8F)
  else if within 0xF1 0xF3 first then some (3, 0x80, 0xBF)
  else none

/-- The payload bits of the first byte of a sequence with this many bytes to come. -/
def leadBits (first : UInt8) : Nat → Nat
  | 0 => first.toNat
  | 1 => first.toNat % 0x20
  | 2 => first.toNat % 0x10
  | _ => first.toNat % 0x08

/-- Decodes bytes from left to right. `pending` is the sequence that has been begun: the bits
read so far, the number of bytes still to come and the bounds of the next one. A sequence that
breaks off becomes `broken`, and the byte that broke it is looked at afresh; a byte that begins
no sequence becomes `broken` as well. The characters read so far are kept in reverse. -/
def decodeFrom (broken : Char) (read : List Char) (pending : Option (Nat × Nat × UInt8 × UInt8)) :
    Bytes → List Char
  | [] => if pending.isSome then (broken :: read).reverse else read.reverse
  | byte :: rest =>
    let fresh (read : List Char) : List Char :=
      if byte < 0x80 then decodeFrom broken (Char.ofNat byte.toNat :: read) none rest
      else match continuation byte with
        | some (count, low, high) =>
          decodeFrom broken read (some (leadBits byte count, count, low, high)) rest
        | none => decodeFrom broken (broken :: read) none rest
    match pending with
    | none => fresh read
    | some (bits, count, low, high) =>
      if within low high byte then
        let bits := bits * 0x40 + byte.toNat % 0x40
        if count ≤ 1 then decodeFrom broken (Char.ofNat bits :: read) none rest
        else decodeFrom broken read (some (bits, count - 1, 0x80, 0xBF)) rest
      else fresh (broken :: read)

/-- Reads bytes as UTF-8, with one replacement character for every maximal piece that is not. -/
def decodeLossy (bytes : Bytes) : String :=
  String.ofList (decodeFrom '\uFFFD' [] none bytes)

/-- Reads bytes as UTF-8 and refuses any that are not. -/
def decode? (bytes : Bytes) : Option String :=
  String.fromUTF8? ⟨bytes.toArray⟩

/-- A stray continuation byte is one piece; so is a sequence that breaks off. -/
example : decodeLossy [0x41, 0x80, 0xE2, 0x82, 0x42] = "A\uFFFD\uFFFDB" := by decide +kernel

/-- A whole sequence is one character. -/
example : decodeLossy [0xE2, 0x82, 0xAC, 0xF0, 0x9F, 0x98, 0x80] = "€😀" := by decide +kernel

end Text

end GoldenSuite
