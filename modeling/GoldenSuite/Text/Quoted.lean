import GoldenSuite.Text.Unprinted

/-!
# Quoted text

A text between double quotes, as it is shown inside a message: quotes and backslashes are
escaped, the common controls have their short forms, and a character without a visible form of
its own is written by its number.
-/

namespace GoldenSuite.Text

/-- How one character is written inside double quotes. -/
def quoteChar (c : Char) : List Char :=
  if c = '"' then ['\\', '"']
  else if c = '\\' then ['\\', '\\']
  else if c = '\n' then ['\\', 'n']
  else if c = '\r' then ['\\', 'r']
  else if c = '\t' then ['\\', 't']
  else if c = '\x00' then ['\\', '0']
  else if isUnprinted c then
    ['\\', 'u', '\x7b'] ++ Nat.toDigits 16 c.toNat ++ ['\x7d']
  else [c]

/-- A text between double quotes. -/
def quote (text : String) : String :=
  String.ofList ('"' :: text.toList.flatMap quoteChar ++ ['"'])

example : quote "a\"b\\" = "\"a\\\"b\\\\\"" := by decide +kernel

example : quote "tab\there\x7f" = "\"tab\\there\\u\x7b7f\x7d\"" := by decide +kernel

end GoldenSuite.Text
