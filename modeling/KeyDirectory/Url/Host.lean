import KeyDirectory.Network.SocketAddress
import KeyDirectory.Text.Percent
import KeyDirectory.Text.Split
import KeyDirectory.Url.Label

/-!
# Hosts of URLs

A host is a name or an address of either kind.  Names are kept in their ASCII form; a name that
ends in a number is an address in one of its looser notations, or nothing.
-/

namespace KeyDirectory.Url

/-- Why a text is not a URL. -/
inductive Fault where
  | emptyHost
  | badInternationalName
  | badPort
  | badIPv4
  | badIPv6
  | badDomainCharacter
  /-- There is no scheme. -/
  | relative
  deriving DecidableEq, Repr

/-- The wording of a fault. -/
def Fault.text : Fault → String
  | emptyHost => "empty host"
  | badInternationalName => "invalid international domain name"
  | badPort => "invalid port number"
  | badIPv4 => "invalid IPv4 address"
  | badIPv6 => "invalid IPv6 address"
  | badDomainCharacter => "invalid domain character"
  | relative => "relative URL without a base"

/-- Where a URL leads. -/
inductive Host where
  | name (text : String)
  | v4 (octets : List Nat)
  | v6 (groups : List Nat)
  deriving DecidableEq, Repr

namespace Host

/-- The notation of a host. -/
def text : Host → String
  | name s => s
  | v4 octets => SocketAddress.v4Text octets
  | v6 groups =>
    let (start, length) := SocketAddress.longestZeros groups
    let body :=
      if length > 1 then
        SocketAddress.groupsText (groups.take start) ++ "::" ++
          SocketAddress.groupsText (groups.drop (start + length))
      else SocketAddress.groupsText groups
    "[" ++ body ++ "]"

/-! ## Addresses -/

/-- The digits and the base of a number in one of its three notations. -/
def baseAndDigits? (s : List Char) : Option (Nat × List Char) :=
  match s with
  | [] => none
  | '0' :: 'x' :: rest | '0' :: 'X' :: rest => some (16, rest)
  | '0' :: c :: rest => some (8, c :: rest)
  | _ => some (10, s)

/-- The value of a number in decimal, octal or hexadecimal notation. -/
def looseNumber? (s : List Char) : Option Nat := do
  let (base, digits) ← baseAndDigits? s
  let values ← digits.mapM SocketAddress.hexValue?
  if values.all (· < base) then some (values.foldl (fun n d => n * base + d) 0) else none

/-- The parts of a name without the empty one after a last full stop. -/
def addressParts (s : List Char) : List (List Char) :=
  let parts := Text.pieces '.' s
  if parts.getLast? = some [] then parts.dropLast else parts

/-- Whether the last part of a name is a number, so that the name must be an address. -/
def endsInNumber (s : List Char) : Bool :=
  match (addressParts s).getLast? with
  | none => false
  | some last => (!last.isEmpty && last.all Text.isDigit) || (looseNumber? last).isSome

/-- The octets of an address of up to four numbers, of which the last one fills the rest. -/
def looseV4? (s : List Char) : Option (List Nat) := do
  let parts := addressParts s
  if parts.length > 4 then none
  else
    let numbers ← parts.mapM looseNumber?
    let last ← numbers.getLast?
    let front := numbers.dropLast
    if front.any (· > 255) || last ≥ Nat.pow 256 (4 - front.length) then none
    else
      let tail := (List.range (4 - front.length)).map fun i =>
        last / Nat.pow 256 (3 - front.length - i) % 256
      some (front ++ tail)

/-- An address of the longer kind, in brackets. -/
def bracketed (s : List Char) : Except Fault Host :=
  match s.getLast? with
  | some ']' =>
    match SocketAddress.readV6 s.dropLast with
    | some (groups, []) => .ok (.v6 groups)
    | _ => .error .badIPv6
  | _ => .error .badIPv6

/-- The host of a URL whose scheme has hosts. -/
def parse (s : List Char) : Except Fault Host :=
  match s with
  | '[' :: rest => bracketed rest
  | _ =>
    match (Text.Utf8.decode? (Text.Percent.decode (Text.Utf8.encode s))).bind Label.asciiName? with
    | none => .error .badInternationalName
    | some domain =>
      if domain.isEmpty then .error .emptyHost
      else if endsInNumber domain.toList then
        match looseV4? domain.toList with
        | some octets => .ok (.v4 octets)
        | none => .error .badIPv4
      else .ok (.name domain)

/-- Whether a character cannot stand in a host of an unknown scheme. -/
def isForbiddenPlain (c : Char) : Bool :=
  c.toNat = 0 || " #/:<>?@[\\]^|".toList.contains c

/-- Control characters. -/
def isControl (c : Char) : Bool :=
  c.toNat < 32 || c.toNat = 127

/-- The host of a URL of an unknown scheme: the text as it is. -/
def parsePlain (s : List Char) : Except Fault Host :=
  match s with
  | '[' :: rest => bracketed rest
  | _ =>
    if s.any isForbiddenPlain then .error .badDomainCharacter
    else .ok (.name (String.ofList (Text.Percent.encode isControl s)))

end Host

end KeyDirectory.Url
