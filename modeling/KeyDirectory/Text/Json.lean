import KeyDirectory.Text.Number
import KeyDirectory.Text.Utf8

/-!
# JSON documents

A reader of JSON text as bytes.  A string is kept in pieces, because a string that is passed
over may hold what no text can: bytes that are not UTF-8, or half of a surrogate pair.
-/

namespace KeyDirectory.Text.Json

/-- A piece of a string. -/
inductive Piece where
  | byte (b : UInt8)
  /-- A sixteen-bit unit from an escape. -/
  | unit (n : Nat)
  deriving DecidableEq, Repr

/-- A JSON value; what a number is does not matter here. -/
inductive Value where
  | null
  | bool (b : Bool)
  | number
  | text (pieces : List Piece)
  | array (items : List Value)
  | object (members : List (List Piece × Value))

/-! ## Strings -/

/-- The bytes of a code point. -/
def codeBytes (n : Nat) : List UInt8 :=
  Utf8.encode [Char.ofNat n]

/-- The bytes that pieces stand for; the two halves of a surrogate pair must stand together. -/
def joinPieces? : List Piece → Option (List UInt8)
  | [] => some []
  | .byte b :: rest => (joinPieces? rest).map (b :: ·)
  | .unit n :: rest =>
    if n < 0xD800 ∨ 0xE000 ≤ n then (joinPieces? rest).map (codeBytes n ++ ·)
    else if 0xDC00 ≤ n then none
    else
      match rest with
      | .unit m :: rest =>
        if 0xDC00 ≤ m ∧ m < 0xE000 then
          (joinPieces? rest).map (codeBytes (0x10000 + (n - 0xD800) * 1024 + (m - 0xDC00)) ++ ·)
        else none
      | _ => none

/-- The text that pieces stand for, if they stand for text. -/
def decodePieces? (pieces : List Piece) : Option String :=
  (joinPieces? pieces).bind Utf8.decodeText?

/-- The value of a hexadecimal digit. -/
def hexValue? (b : UInt8) : Option Nat :=
  let n := b.toNat
  if 48 ≤ n ∧ n ≤ 57 then some (n - 48)
  else if 65 ≤ n ∧ n ≤ 70 then some (n - 55)
  else if 97 ≤ n ∧ n ≤ 102 then some (n - 87)
  else none

/-- The character that one letter after a backslash stands for. -/
def escapeByte? (b : UInt8) : Option UInt8 :=
  match Char.ofNat b.toNat with
  | '"' => some 34
  | '\\' => some 92
  | '/' => some 47
  | 'b' => some 8
  | 'f' => some 12
  | 'n' => some 10
  | 'r' => some 13
  | 't' => some 9
  | _ => none

/-- Reads the rest of a string after its opening quote. -/
def readString : List UInt8 → Option (List Piece × List UInt8)
  | [] => none
  | 34 :: rest => some ([], rest)
  | 92 :: 117 :: a :: b :: c :: d :: rest => do
    let n := (((← hexValue? a) * 16 + (← hexValue? b)) * 16 + (← hexValue? c)) * 16 + (← hexValue? d)
    let (pieces, rest) ← readString rest
    return (.unit n :: pieces, rest)
  | 92 :: e :: rest => do
    let b ← escapeByte? e
    let (pieces, rest) ← readString rest
    return (.byte b :: pieces, rest)
  | b :: rest =>
    if b < 32 ∨ b = 92 then none
    else (readString rest).map fun (pieces, rest) => (.byte b :: pieces, rest)

/-! ## Numbers -/

/-- Whether a byte is a decimal digit. -/
def isDigitByte (b : UInt8) : Bool :=
  48 ≤ b && b ≤ 57

/-- Takes one or more digits. -/
def readDigits (s : List UInt8) : Option (List UInt8) :=
  if (s.takeWhile isDigitByte).isEmpty then none else some (s.dropWhile isDigitByte)

/-- Takes the digits before the point, which start with zero only if that is all. -/
def readWhole : List UInt8 → Option (List UInt8)
  | 48 :: b :: rest => if isDigitByte b then none else some (b :: rest)
  | 48 :: rest => some rest
  | s => readDigits s

/-- Takes a point and digits, if there is a point. -/
def readFraction : List UInt8 → Option (List UInt8)
  | 46 :: rest => readDigits rest
  | s => some s

/-- Takes an exponent, if there is one. -/
def readExponent : List UInt8 → Option (List UInt8)
  | e :: rest =>
    if e = 101 ∨ e = 69 then
      match rest with
      | sign :: digits => readDigits (if sign = 43 ∨ sign = 45 then digits else rest)
      | [] => none
    else some (e :: rest)
  | [] => some []

/-- Takes a number. -/
def readNumber (s : List UInt8) : Option (List UInt8) := do
  let unsigned := match s with
    | 45 :: rest => rest
    | s => s
  readExponent (← readFraction (← readWhole unsigned))

/-! ## Values -/

/-- The text after blanks. -/
def skipBlank (s : List UInt8) : List UInt8 :=
  s.dropWhile fun b => b = 32 || b = 10 || b = 13 || b = 9

/-- Takes a given word. -/
def readWord : List UInt8 → List UInt8 → Option (List UInt8)
  | [], s => some s
  | w :: word, b :: s => if w = b then readWord word s else none
  | _ :: _, [] => none

mutual

/-- Takes a value; the fuel bounds the number of values. -/
def readValue (fuel : Nat) (s : List UInt8) : Option (Value × List UInt8) :=
  match fuel, skipBlank s with
  | 0, _ | _, [] => none
  | fuel + 1, b :: rest =>
    match Char.ofNat b.toNat with
    | '"' => (readString rest).map fun (pieces, rest) => (.text pieces, rest)
    | '[' =>
      match skipBlank rest with
      | 93 :: rest => some (.array [], rest)
      | _ => (readItems fuel rest).map fun (items, rest) => (.array items, rest)
    | '\x7b' =>
      match skipBlank rest with
      | 125 :: rest => some (.object [], rest)
      | _ => (readMembers fuel rest).map fun (members, rest) => (.object members, rest)
    | 'n' => (readWord "ull".toUTF8.toList rest).map fun rest => (.null, rest)
    | 't' => (readWord "rue".toUTF8.toList rest).map fun rest => (.bool true, rest)
    | 'f' => (readWord "alse".toUTF8.toList rest).map fun rest => (.bool false, rest)
    | _ => (readNumber (b :: rest)).map fun rest => (.number, rest)

/-- Takes the items of an array and the bracket after them. -/
def readItems (fuel : Nat) (s : List UInt8) : Option (List Value × List UInt8) :=
  match fuel with
  | 0 => none
  | fuel + 1 => do
    let (item, rest) ← readValue fuel s
    match skipBlank rest with
    | 44 :: rest => (readItems fuel rest).map fun (items, rest) => (item :: items, rest)
    | 93 :: rest => some ([item], rest)
    | _ => none

/-- Takes the members of an object and the brace after them. -/
def readMembers (fuel : Nat) (s : List UInt8) : Option (List (List Piece × Value) × List UInt8) :=
  match fuel with
  | 0 => none
  | fuel + 1 =>
    match skipBlank s with
    | 34 :: rest => do
      let (name, rest) ← readString rest
      match skipBlank rest with
      | 58 :: rest => do
        let (value, rest) ← readValue fuel rest
        match skipBlank rest with
        | 44 :: rest =>
          (readMembers fuel rest).map fun (members, rest) => ((name, value) :: members, rest)
        | 125 :: rest => some ([(name, value)], rest)
        | _ => none
      | _ => none
    | _ => none

end

/-- Reads a document: one value with nothing but blanks around. -/
def parse? (s : List UInt8) : Option Value := do
  let (value, rest) ← readValue (2 * s.length + 2) s
  if (skipBlank rest).isEmpty then some value else none

/-! ## Writing -/

/-- The written form of a character in a string. -/
def quoteChar (c : Char) : List Char :=
  if c = '"' || c = '\\' then ['\\', c]
  else if c.toNat < 32 then
    let digits := Nat.toDigits 16 c.toNat
    '\\' :: 'u' :: List.replicate (4 - digits.length) '0' ++ digits
  else [c]

/-- The written form of a string. -/
def quote (s : String) : String :=
  String.ofList ('"' :: s.toList.flatMap quoteChar ++ ['"'])

end KeyDirectory.Text.Json
