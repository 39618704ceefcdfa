import Homelab.Address.Reader
import Homelab.Failure
import Homelab.Text.LetterCase
import Homelab.Text.Lines

/-!
# Endpoints

The endpoint of a cluster is written as a host, a host with a port, or a whole
address with a scheme and a path.  Only the host and the port count; the host is
taken in lower case, and the usual port is assumed where none is given.

Brackets stand around an address of version 6 and around nothing else; only a port
may follow them.
-/

namespace Homelab
namespace Endpoint

/-- The port of a cluster. -/
def usualPort : Int := 8006

/-- A text with a scheme. -/
def hasScheme (cs : List Char) : Bool :=
  match cs with
  | ':' :: '/' :: '/' :: _ => true
  | _ :: rest => hasScheme rest
  | [] => false

/-- A character of a scheme after its first letter. -/
def isSchemeChar (c : Char) : Bool :=
  c.isAlphanum || c = '+' || c = '-' || c = '.'

/-- A text without the blanks and control characters it begins with, and without tabs
and line ends, which are no part of an address. -/
def cleaned (cs : List Char) : List Char :=
  (cs.dropWhile fun c => c.toNat ≤ 0x20).filter fun c => c ≠ '\t' && c ≠ '\r' && c ≠ '\n'

/-- The text after the scheme, if what stands before the first colon is one. -/
def afterScheme (cs : List Char) : List Char :=
  match Text.cut? ':' cs with
  | some (scheme, rest) =>
      match scheme with
      | c :: more => if c.isAlpha && more.all isSchemeChar then rest else cs
      | [] => cs
  | none => cs

/-- A character that ends the part with the host. -/
def endsAuthority (c : Char) : Bool := c = '/' || c = '?' || c = '#'

/-- The part with the host, between two slashes and the path. -/
def authority (cs : List Char) : List Char :=
  match afterScheme cs with
  | '/' :: '/' :: rest => rest.takeWhile fun c => !endsAuthority c
  | _ => []

/-- The part with the host without the name of a user. -/
def place (authority : List Char) : List Char :=
  match Text.cutLast? '@' authority with
  | some (_, rest) => rest
  | none => authority

/-- The host and the port of a part that may begin with the name of a user. -/
def hostPort (authority : List Char) : List Char × Option (List Char) :=
  match Text.cut? '[' (place authority) with
  | some (_, inner) =>
      match Text.cut? ']' inner with
      | some (host, rest) => (host, (Text.cut? ':' rest).map (·.2))
      | none => (inner, none)
  | none =>
      match Text.cut? ':' (place authority) with
      | some (host, port) => (host, some port)
      | none => (place authority, none)

/-- An address of a later version: a letter, hexadecimal digits, a point and more. -/
def isFuture (host : List Char) : Bool :=
  match host with
  | 'v' :: rest =>
      !(rest.takeWhile Text.isHexDigit).isEmpty &&
        match rest.dropWhile Text.isHexDigit with
        | '.' :: _ :: _ => true
        | _ => false
  | _ => false

/-- What is wrong with a host that stands in brackets. -/
def bracketedFault? (host : List Char) : Option String :=
  if host.head? = some 'v' then
    if isFuture host then none else some "IPvFuture address is invalid"
  else
    match Address.readChars? host with
    | none => some (notAnAddress .address (String.ofList host))
    | some ⟨.v4, _⟩ => some "An IPv4 address cannot be in brackets"
    | some ⟨.v6, _⟩ => none

/-- What is wrong with the brackets of a place: text before them, or text other than
a port behind them. -/
def bracketFault? (place : List Char) : Option String :=
  match Text.cut? '[' place with
  | none => none
  | some (before, inner) =>
      let behind := match Text.cut? ']' inner with
        | some (_, rest) => rest
        | none => []
      if before.isEmpty && (behind.isEmpty || behind.head? = some ':') then none
      else some "Invalid IPv6 URL"

/-- Characters that are variants of a mark of an address, or hold one. -/
def markVariants : List Nat :=
  [0x2047, 0x2048, 0x2049, 0x2100, 0x2101, 0x2105, 0x2106, 0x2a74, 0xfe13, 0xfe16, 0xfe55,
   0xfe56, 0xfe5f, 0xfe6b, 0xff03, 0xff0f, 0xff1a, 0xff1f, 0xff20]

/-- What is wrong with the part with the host: brackets that are not in order, or a
character that could be taken for a mark. -/
def authorityFault? (authority : List Char) : Option String :=
  if authority.contains '[' ≠ authority.contains ']' then some "Invalid IPv6 URL"
  else
    let brackets := if authority.contains '[' then
        (bracketFault? (place authority)).or (bracketedFault? (hostPort authority).1)
      else none
    if brackets.isSome then brackets
    else if authority.any fun c => markVariants.contains c.toNat then
      some ("netloc '" ++ String.ofList authority ++
        "' contains invalid characters under NFKC normalization")
    else none

/-- The host in lower case; the name of a zone is kept as it is. -/
def hostText (host : List Char) : String :=
  match Text.cut? '%' host with
  | some (name, zone) => Text.lower (String.ofList name) ++ "%" ++ String.ofList zone
  | none => Text.lower (String.ofList host)

/-- The most digits that a port may be written with. -/
def digitLimit : Nat := 4300

/-- A port in decimal digits. -/
def port (digits : List Char) : Except Failure Int :=
  if !digits.all Text.isAsciiDigit then
    .error (.value ("Port could not be cast to integer value as " ++
      Text.quoted (String.ofList digits)))
  else if digitLimit < digits.length then
    .error (.value ((Json.Fault.oversized digits.length).message ""))
  else
    let n := Text.natOfDigits digits
    if n ≤ 65535 then .ok n else .error (.value "Port out of range 0-65535")

/-- The host and the port of an endpoint. -/
def read (s : String) : Except Failure (String × Int) := do
  let address := if hasScheme s.toList then s.toList else "https://".toList ++ s.toList
  let part := authority (cleaned address)
  match authorityFault? part with
  | some reason => throw (.value reason)
  | none =>
      let (host, digits?) := hostPort part
      if host.isEmpty then throw (.endpoint (String.ofList address))
      else
        let n ← match digits? with
          | none | some [] => pure 0
          | some digits => port digits
        return (hostText host, if n = 0 then usualPort else n)

end Endpoint
end Homelab
