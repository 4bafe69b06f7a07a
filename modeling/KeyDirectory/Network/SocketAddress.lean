import KeyDirectory.Text.Number

/-!
# Addresses to listen on

An IP address of either kind with a port, in the usual notations: four decimal numbers, or
hexadecimal groups in brackets of which one run of zeros may be left out.
-/

namespace KeyDirectory

/-- An IP address with a port. -/
inductive SocketAddress where
  | v4 (octets : List Nat) (port : Nat)
  | v6 (groups : List Nat) (scope : Nat) (port : Nat)
  deriving DecidableEq, Repr

namespace SocketAddress

/-! ## Reading -/

/-- A reader takes what it can from the beginning of a text. -/
abbrev Reader (α : Type) := List Char → Option (α × List Char)

/-- Takes one given character. -/
def readChar (c : Char) : Reader Unit
  | d :: rest => if c = d then some ((), rest) else none
  | [] => none

/-- The value of a hexadecimal digit. -/
def hexValue? (c : Char) : Option Nat :=
  if '0' ≤ c ∧ c ≤ '9' then some (c.toNat - 48)
  else if 'a' ≤ c ∧ c ≤ 'f' then some (c.toNat - 87)
  else if 'A' ≤ c ∧ c ≤ 'F' then some (c.toNat - 55)
  else none

/-- Takes a decimal number up to a limit; zeros in front and the number of digits are not
bounded. -/
def readDecimal (limit : Nat) : Reader Nat := fun s =>
  (Text.readDigits? limit (s.takeWhile Text.isDigit)).map fun n => (n, s.dropWhile Text.isDigit)

/-- Takes one of the four numbers of an address, without needless zeros. -/
def readOctet : Reader Nat := fun s =>
  let digits := s.takeWhile Text.isDigit
  match digits with
  | '0' :: _ :: _ => none
  | _ => (Text.readDigits? 255 digits).map fun n => (n, s.dropWhile Text.isDigit)

/-- Takes four numbers with points between them. -/
def readV4 : Reader (List Nat) := fun s => do
  let (a, s) ← readOctet s
  let (_, s) ← readChar '.' s
  let (b, s) ← readOctet s
  let (_, s) ← readChar '.' s
  let (c, s) ← readOctet s
  let (_, s) ← readChar '.' s
  let (d, s) ← readOctet s
  some ([a, b, c, d], s)

/-- Takes one to four hexadecimal digits. -/
def readGroup : Reader Nat := fun s =>
  let digits := s.takeWhile fun c => (hexValue? c).isSome
  if digits.isEmpty || digits.length > 4 then none
  else some (digits.foldl (fun n c => n * 16 + (hexValue? c).getD 0) 0, s.drop digits.length)

/-- Takes the separator in front of every group but the first. -/
def separated (isFirst : Bool) (read : Reader α) : Reader α := fun s =>
  if isFirst then read s
  else do
    let (_, s) ← readChar ':' s
    read s

/-- Takes groups, at most `left` of them; the last two may be written as four numbers, which the
flag tells. -/
def readGroups (isFirst : Bool) : Nat → List Char → List Nat × Bool × List Char
  | 0, s => ([], false, s)
  | left + 1, s =>
    match if left = 0 then none else separated isFirst readV4 s with
    | some ([a, b, c, d], rest) => ([a * 256 + b, c * 256 + d], true, rest)
    | _ =>
      match separated isFirst readGroup s with
      | none => ([], false, s)
      | some (group, rest) =>
        let (groups, embedded, rest) := readGroups false left rest
        (group :: groups, embedded, rest)

/-- Takes the eight groups of an address, of which two colons may stand for some zeros. -/
def readV6 : Reader (List Nat) := fun s => do
  let (head, embedded, s) := readGroups true 8 s
  if head.length = 8 then some (head, s)
  else if embedded then none
  else
    let (_, s) ← readChar ':' s
    let (_, s) ← readChar ':' s
    let (tail, _, s) := readGroups true (7 - head.length) s
    some (head ++ List.replicate (8 - head.length - tail.length) 0 ++ tail, s)

/-- Takes the number of a scope after a percent sign. -/
def readScope : Reader Nat := fun s =>
  match s with
  | '%' :: rest => (readDecimal Text.maxWord32 rest)
  | _ => none

/-- Takes a colon and a port. -/
def readPort : Reader Nat := fun s => do
  let (_, s) ← readChar ':' s
  readDecimal Text.maxWord16 s

/-- Reads an address. -/
def parse? (text : String) : Option SocketAddress :=
  let s := text.toList
  let v4 : Option SocketAddress := do
    let (octets, s) ← readV4 s
    let (port, s) ← readPort s
    if s.isEmpty then some (.v4 octets port) else none
  let v6 : Option SocketAddress := do
    let (_, s) ← readChar '[' s
    let (groups, s) ← readV6 s
    let (scope, s) := (readScope s).getD (0, s)
    let (_, s) ← readChar ']' s
    let (port, s) ← readPort s
    if s.isEmpty then some (.v6 groups scope port) else none
  v4.or v6

/-! ## Writing -/

/-- Four numbers with points between them. -/
def v4Text (octets : List Nat) : String :=
  ".".intercalate (octets.map toString)

/-- Hexadecimal groups with colons between them. -/
def groupsText (groups : List Nat) : String :=
  ":".intercalate (groups.map fun g => String.ofList (Nat.toDigits 16 g))

/-- The longest run of zeros, the first one of several: where it starts and its length. -/
def longestZeros (groups : List Nat) : Nat × Nat :=
  let runs := (List.range groups.length).map fun i =>
    (i, ((groups.drop i).takeWhile (· = 0)).length)
  runs.foldl (fun best run => if best.2 < run.2 then run else best) (0, 0)

/-- An address of the longer kind, the longest run of at least two zeros left out. -/
def v6Text (groups : List Nat) : String :=
  match groups with
  | [0, 0, 0, 0, 0, 0xffff, g, h] => "::ffff:" ++ v4Text [g / 256, g % 256, h / 256, h % 256]
  | _ =>
    let (start, length) := longestZeros groups
    if length > 1 then
    groupsText (groups.take start) ++ "::" ++ groupsText (groups.drop (start + length))
    else groupsText groups

/-- The notation of an address. -/
def text : SocketAddress → String
  | v4 octets port => v4Text octets ++ ":" ++ toString port
  | v6 groups scope port =>
    "[" ++ v6Text groups ++ (if scope = 0 then "" else "%" ++ toString scope) ++ "]:" ++
      toString port

end SocketAddress

end KeyDirectory
