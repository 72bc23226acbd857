import Relational.Json.Parser

/-!
# Addresses of requests

A request is sent to an address, of which only the path says what is asked for: the scheme and the host before it
and the query and the fragment after it are left out. Characters may be written as a percent sign and two
hexadecimal digits.
-/

namespace Relational.Http

/-- The host and the path of an address. -/
structure Address where
  host : List Char
  path : List Char
  deriving Repr, DecidableEq

/-- Control characters and the blank, which count for nothing at the start of an address. -/
def isControl (c : Char) : Bool :=
  c.toNat ≤ 0x20

/-- Characters that count for nothing anywhere in an address. -/
def isSkipped (c : Char) : Bool :=
  c == '\t' || c == '\n' || c == '\r'

/-- Characters of a scheme. -/
def isSchemeChar (c : Char) : Bool :=
  c.isAlphanum || c == '+' || c == '-' || c == '.'

/-- What follows the scheme of an address, if it has one. -/
def dropScheme (cs : List Char) : List Char :=
  let scheme := cs.takeWhile (· != ':')
  match scheme.head?, cs.drop scheme.length with
  | some first, _ :: rest => if first.isAlpha && scheme.all isSchemeChar then rest else cs
  | _, _ => cs

/-- The query and the fragment start here. -/
def isPathEnd (c : Char) : Bool :=
  c == '?' || c == '#'

namespace Address

/-- Reads an address. -/
def ofChars (cs : List Char) : Address :=
  match dropScheme ((cs.dropWhile isControl).filter (!isSkipped ·)) with
  | '/' :: '/' :: rest =>
    let isHostEnd (c : Char) : Bool := c == '/' || isPathEnd c
    ⟨rest.takeWhile (!isHostEnd ·), (rest.dropWhile (!isHostEnd ·)).takeWhile (!isPathEnd ·)⟩
  | rest => ⟨[], rest.takeWhile (!isPathEnd ·)⟩

/-- A bracket of the host has no partner. -/
def isUnpaired (address : Address) : Bool :=
  address.host.contains '[' != address.host.contains ']'

end Address

/-- The text with its percent signs resolved. A byte beyond ASCII, which no path that is served has, reads as
U+FFFD. -/
def percentDecoded : List Char → List Char
  | '%' :: a :: b :: cs =>
    match Json.hexValue? a, Json.hexValue? b with
    | some high, some low =>
      let code := high * 16 + low
      (if code < 0x80 then Char.ofNat code else '\uFFFD') :: percentDecoded cs
    | _, _ => '%' :: percentDecoded (a :: b :: cs)
  | c :: cs => c :: percentDecoded cs
  | [] => []

/-- The path that a target asks for, with one slash at its start, unless a bracket in it has no partner. The path of
the target is itself read as an address once more. -/
def path? (target : String) : Option String :=
  let outer := Address.ofChars target.toList
  let inner := Address.ofChars outer.path
  if outer.isUnpaired || inner.isUnpaired then none
  else some (String.ofList ('/' :: (percentDecoded inner.path).dropWhile (· == '/')))

end Relational.Http
