import Relational.Json.Parser

/-!
# Documents as bytes

A document that arrives as bytes does not say how its characters are written. It starts with a character of ASCII, so
zero bytes at its start tell that its units are wider than a byte, and in which order their bytes stand. Without
any it is UTF-8, and may have the mark U+FEFF at its start.
-/

namespace Relational.Json

/-- The order of the bytes in a unit. -/
inductive ByteOrder where
  | bigEndian
  | littleEndian
  deriving Repr, DecidableEq

/-- How characters are written as bytes. -/
inductive Encoding where
  | utf8
  | utf16 (order : ByteOrder)
  | utf32 (order : ByteOrder)
  deriving Repr, DecidableEq

/-- The encoding of a document. -/
def Encoding.ofBytes : List UInt8 → Encoding
  | 0 :: 0 :: _ :: _ :: _ => .utf32 .bigEndian
  | 0 :: _ :: _ :: _ :: _ => .utf16 .bigEndian
  | _ :: 0 :: 0 :: 0 :: _ => .utf32 .littleEndian
  | _ :: 0 :: _ :: _ :: _ => .utf16 .littleEndian
  | [0, _] => .utf16 .bigEndian
  | [_, 0] => .utf16 .littleEndian
  | _ => .utf8

/-- The bytes in the order of their weight, the heaviest first. -/
def ByteOrder.arrange (order : ByteOrder) (bytes : List UInt8) : List UInt8 :=
  match order with
  | .bigEndian => bytes
  | .littleEndian => bytes.reverse

/-- The unit that some bytes make. -/
def unitOf (order : ByteOrder) (bytes : List UInt8) : Nat :=
  (order.arrange bytes).foldl (fun n byte => n * 256 + byte.toNat) 0

/-- Units of two bytes, if the bytes come out even. -/
def pairs? (order : ByteOrder) : List UInt8 → Option (List Nat)
  | [] => some []
  | a :: b :: bytes => (pairs? order bytes).map (unitOf order [a, b] :: ·)
  | _ => none

/-- Units of four bytes, if the bytes come out even. -/
def quads? (order : ByteOrder) : List UInt8 → Option (List Nat)
  | [] => some []
  | a :: b :: c :: d :: bytes => (quads? order bytes).map (unitOf order [a, b, c, d] :: ·)
  | _ => none

/-- The characters of units of two bytes, where two surrogates form one character. -/
def charsOfPairs : List Nat → List Char
  | [] => []
  | [n] => [unitChar n]
  | high :: low :: units =>
    if isHighSurrogate high && isLowSurrogate low then surrogateChar high low :: charsOfPairs units
    else unitChar high :: charsOfPairs (low :: units)

/-- The characters of units of four bytes, if all are in the range of characters. -/
def charsOfQuads? (units : List Nat) : Option (List Char) :=
  units.mapM fun n => if n ≤ 0x10ffff then some (unitChar n) else none

/-- The text without the mark that may stand at its start. -/
def dropMark : List Char → List Char
  | '\uFEFF' :: cs => cs
  | cs => cs

/-- The characters of a document that was sent as the UTF-8 bytes of a text. -/
def received? (text : String) : Option (List Char) :=
  let bytes := text.toUTF8.toList
  match Encoding.ofBytes bytes with
  | .utf8 => some (dropMark text.toList)
  | .utf16 order => (pairs? order bytes).map charsOfPairs
  | .utf32 order => (quads? order bytes).bind charsOfQuads?

/-- The document that was sent as the UTF-8 bytes of a text. -/
def ofReceived? (text : String) : Option Json := do
  parse? (String.ofList (← received? text))

end Relational.Json
