import GoldenSuite.Glob.Reading
import GoldenSuite.Text.Utf8

/-!
# Matching glob patterns

A pattern is matched from its end: given, for every suffix of the subject, whether the tokens
that follow accept it, each token yields the same for the tokens that start with it. A list of
such answers, the whole subject first and the empty suffix last, is called an outlook. The time
needed is the length of the pattern times the length of the subject.
-/

namespace GoldenSuite.Glob

/-- For every suffix of a subject, the longest first, whether it is accepted. -/
abbrev Outlook := List Bool

namespace Outlook

/-- Only the empty suffix is accepted. -/
def atEnd (subject : Bytes) : Outlook :=
  subject.map (fun _ => false) ++ [true]

/-- One byte that passes the test, and then what the outlook accepts. -/
def afterByte (test : UInt8 → Bool) : Bytes → Outlook → Outlook
  | byte :: rest, _ :: outlook =>
    (test byte && outlook.head?.getD false) :: afterByte test rest outlook
  | _, _ => [false]

/-- These bytes, and then what the outlook accepts. -/
def afterBytes (bytes : Bytes) (subject : Bytes) (outlook : Outlook) : Outlook :=
  bytes.foldr (fun byte later => afterByte (· == byte) subject later) outlook

/-- Any bytes, and then what the outlook accepts. -/
def afterAny (outlook : Outlook) : Outlook :=
  outlook.foldr (fun accepted later => (accepted || later.head?.getD false) :: later) []

/-- What either of two outlooks accepts. -/
def either (a b : Outlook) : Outlook :=
  List.zipWith (· || ·) a b

end Outlook

/-! ### Members of a class -/

/-- The byte ranges of a character range: the bytes of the characters at its ends, and, where
both are written, those between the last byte of the first and the first byte of the last. -/
def byteRanges (range : Char × Char) : List (UInt8 × UInt8) :=
  let low := Text.encode (String.singleton range.1)
  let high := Text.encode (String.singleton range.2)
  let alone := fun byte : UInt8 => (byte, byte)
  if range.1 = range.2 then low.map alone
  else
    (low.dropLast.map alone) ++ [(low.getLast?.getD 0, high.head?.getD 0)] ++ (high.tail.map alone)

/-- Whether a class of characters has a byte among its members. -/
def classHas (negated : Bool) (ranges : List (Char × Char)) (byte : UInt8) : Bool :=
  ((ranges.flatMap byteRanges).any fun range => Text.within range.1 range.2 byte) != negated

/-! ### Tokens -/

/-- The byte that separates names. -/
def separator : UInt8 := 0x2F

mutual

/-- Whether tokens stand for nothing but the empty text because nothing is left in them once
empty alternatives are dropped. -/
def isVoid : List Token → Bool
  | [] => true
  | t :: rest => isVoidToken t && isVoid rest

/-- Whether a token is a group in which no branch is left. -/
def isVoidToken : Token → Bool
  | .alternatives branches => areVoid branches
  | _ => false

/-- Whether no branch of a group is left. -/
def areVoid : List (List Token) → Bool
  | [] => true
  | branch :: rest => isVoid branch && areVoid rest

end

mutual

/-- The outlook of tokens that are followed by what an outlook accepts. -/
def outlookOf (subject : Bytes) : List Token → Outlook → Outlook
  | [], after => after
  | t :: rest, after => tokenOutlook subject t (outlookOf subject rest after)

/-- The outlook of one token that is followed by what an outlook accepts. -/
def tokenOutlook (subject : Bytes) : Token → Outlook → Outlook
  | .literal c, after => Outlook.afterBytes (Text.encode (String.singleton c)) subject after
  | .any, after => Outlook.afterByte (fun _ => true) subject after
  | .gap, after => Outlook.afterAny after
  | .leadingDirectories, after =>
    Outlook.either after (Outlook.afterAny (Outlook.afterByte (· == separator) subject after))
  | .trailingDirectories, after =>
    Outlook.afterByte (· == separator) subject (Outlook.afterAny after)
  | .innerDirectories, after =>
    let closing := Outlook.afterAny (Outlook.afterByte (· == separator) subject after)
    Outlook.afterByte (· == separator) subject (Outlook.either after closing)
  | .oneOf negated ranges, after => Outlook.afterByte (classHas negated ranges) subject after
  | .alternatives branches, after =>
    if areVoid branches then after else branchesOutlook subject branches after

/-- What any branch that is not dropped accepts, followed by what an outlook accepts. -/
def branchesOutlook (subject : Bytes) : List (List Token) → Outlook → Outlook
  | [], after => after.map fun _ => false
  | branch :: rest, after =>
    let others := branchesOutlook subject rest after
    if isVoid branch then others else Outlook.either (outlookOf subject branch after) others

end

/-- Whether a pattern accepts bytes as a whole. A pattern that is nothing but two stars accepts
whatever there is. -/
def Pattern.accepts (p : Pattern) (subject : Bytes) : Bool :=
  match p.tokens with
  | [.leadingDirectories] => true
  | tokens => (outlookOf subject tokens (Outlook.atEnd subject)).head?.getD false

end GoldenSuite.Glob
