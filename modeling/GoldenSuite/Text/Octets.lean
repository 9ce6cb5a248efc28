import GoldenSuite.Text.Utf8

/-!
# Texts made of bytes

What the operating system takes for a text is bytes, and they need not be UTF-8: the names of
files, the arguments of a program, a script. Such a text is kept as a string whose characters
stand for bytes: each has a code below 256. This module turns bytes and texts into such strings
and back. A byte reads back from the character that stands for it, and ASCII stands for itself.
-/

namespace GoldenSuite.Octets

/-- The character that stands for a byte. -/
def ofByte (byte : UInt8) : Char :=
  Char.ofNat byte.toNat

/-- The byte that a character stands for. -/
def toByte (c : Char) : UInt8 :=
  UInt8.ofNat c.toNat

/-- The string that stands for bytes. -/
def ofBytes (bytes : Bytes) : String :=
  String.ofList (bytes.map ofByte)

/-- The bytes that a string stands for. -/
def toBytes (octets : String) : Bytes :=
  octets.toList.map toByte

/-- The string that stands for the bytes of a text. -/
def ofText (text : String) : String :=
  ofBytes (Text.encode text)

/-- The text that is shown for a string that stands for bytes: what of them is not UTF-8 becomes
replacement characters. -/
def toText (octets : String) : String :=
  Text.decodeLossy (toBytes octets)

example : ofText "aé" = "a\u00c3\u00a9" := by decide +kernel
example : toText "a\u00c3\u00a9\u00ff" = "aé\uFFFD" := by decide +kernel

end GoldenSuite.Octets
