import KeyDirectory.Text.Alphanumeric
import KeyDirectory.Text.Number
import KeyDirectory.Text.Split

/-!
# Patterns for values

A log filter may ask for the value of a field: with a number, or with a regular expression.  No
line has such a field, so a pattern is only checked: whether its groups and classes are closed,
whether each repetition has something to repeat, and whether each escape is known.  Properties of
characters beyond ASCII are not known, nor is case that does not count.  Of the flags, free
spacing has no effect here.
-/

namespace KeyDirectory.Settings.ValuePattern

/-- Why a text is no pattern. -/
inductive Fault where
  /-- It is malformed, or uses what is not known. -/
  | malformed
  /-- It asks for the boundaries of words. -/
  | wordBoundary
  deriving DecidableEq, Repr

/-- The wording of a fault. -/
def Fault.text : Fault → String
  | malformed => "error building NFA"
  | wordBoundary =>
    "unsupported regex feature for DFAs: cannot build DFAs for regexes with Unicode word " ++
      "boundaries; switch to ASCII word boundaries, or heuristically enable Unicode word " ++
      "boundaries or use a different regex engine"

/-! ## Escapes -/

/-- What an escape stands for. -/
inductive Escape where
  | character (c : Char)
  /-- A place in the text, such as its beginning. -/
  | position
  | wordBoundary
  deriving DecidableEq, Repr

/-- The value of a hexadecimal digit. -/
def hexDigit? (c : Char) : Option Nat :=
  if Text.isDigit c then some (c.toNat - 48)
  else if 'a' ≤ c ∧ c ≤ 'f' then some (c.toNat - 87)
  else if 'A' ≤ c ∧ c ≤ 'F' then some (c.toNat - 55)
  else none

/-- The character with a number of so many hexadecimal digits, and what is left. -/
def readCode? (digits : Nat) (s : List Char) : Option (Escape × List Char) := do
  let values ← (s.take digits).mapM hexDigit?
  let code := values.foldl (fun n d => n * 16 + d) 0
  if values.length < digits ∨ ¬ code.isValidChar then none
  else some (.character (Char.ofNat code), s.drop digits)

/-- Whether a character can be escaped so that it stands for itself. -/
def isEscapable (c : Char) : Bool :=
  c.toNat < 128 && !c.isAlphanum && c ≠ '<' && c ≠ '>'

/-- The escape after a backslash, and what is left. -/
def readEscape? : List Char → Option (Escape × List Char)
  | [] => none
  | c :: rest =>
    match c with
    | 'a' => some (.character '\x07', rest)
    | 'f' => some (.character '\x0c', rest)
    | 't' => some (.character '\t', rest)
    | 'n' => some (.character '\n', rest)
    | 'r' => some (.character '\x0d', rest)
    | 'v' => some (.character '\x0b', rest)
    | 'x' => readCode? 2 rest
    | 'u' => readCode? 4 rest
    | 'U' => readCode? 8 rest
    | 'A' | 'z' => some (.position, rest)
    | 'b' | 'B' | '<' | '>' => some (.wordBoundary, rest)
    | c => if isEscapable c then some (.character c, rest) else none

/-! ## Classes -/

/-- The names of classes that may stand within a class. -/
def classNames : List String :=
  ["alnum", "alpha", "ascii", "blank", "cntrl", "digit", "graph", "lower", "print", "punct",
    "space", "upper", "word", "xdigit"]

/-- What is left after a named class, which begins after its first bracket. -/
def afterNamedClass? (s : List Char) : Option (List Char) := do
  let rest ← Text.afterBeginning? [':'] s
  let rest := (Text.afterBeginning? ['^'] rest).getD rest
  let name := rest.takeWhile (· ≠ ':')
  if classNames.contains (String.ofList name) then
    Text.afterBeginning? [':', ']'] (rest.drop name.length)
  else none

/-- A member of a class that stands for itself, and what is left. -/
def readMember? : List Char → Option (Char × List Char)
  | [] => none
  | '\\' :: rest =>
    match readEscape? rest with
    | some (.character c, rest) => some (c, rest)
    | _ => none
  | c :: rest => some (c, rest)

/-- What is left after the beginning of a class: the sign that turns it round, and hyphens or a
closing bracket that stand for themselves. -/
def afterOpening (s : List Char) : List Char :=
  let s := (Text.afterBeginning? ['^'] s).getD s
  let rest := s.dropWhile (· = '-')
  if rest.length < s.length then rest else (Text.afterBeginning? [']'] s).getD s

/-- What is left after a class of which `depth` brackets are open. -/
def afterClass? (fuel depth : Nat) (s : List Char) : Option (List Char) :=
  match fuel with
  | 0 => none
  | fuel + 1 =>
    match s with
    | [] => none
    | ']' :: rest => if depth ≤ 1 then some rest else afterClass? fuel (depth - 1) rest
    | '[' :: rest =>
      match afterNamedClass? rest with
      | some rest => afterClass? fuel depth rest
      | none => afterClass? fuel (depth + 1) (afterOpening rest)
    | '&' :: '&' :: rest | '~' :: '~' :: rest | '-' :: '-' :: rest => afterClass? fuel depth rest
    | s => do
      let (first, rest) ← readMember? s
      match rest with
      | '-' :: c :: _ =>
        if c = ']' ∨ c = '-' then afterClass? fuel depth rest
        else
          let (last, rest) ← readMember? (rest.drop 1)
          if last < first then none else afterClass? fuel depth rest
      | rest => afterClass? fuel depth rest

/-! ## Groups -/

/-- Whether a character may stand in the name of a group. -/
def isNameChar (isFirst : Bool) (c : Char) : Bool :=
  c = '_' || (Text.isAlphanumeric c && !(isFirst && Text.isDigit c)) ||
    (!isFirst && (c = '.' || c = '[' || c = ']'))

/-- What is left after the name of a group. -/
def afterGroupName? (s : List Char) : Option (List Char) :=
  let name := s.takeWhile (· ≠ '>')
  match name with
  | [] => none
  | c :: others =>
    if isNameChar true c && others.all (isNameChar false) then
      Text.afterBeginning? ['>'] (s.drop name.length)
    else none

/-- Whether flags are known, each at most once, with a hyphen before some of them at most. -/
def areFlags (flags : List Char) : Bool :=
  flags.all ("msUuRx-".toList.contains ·) && flags.eraseDups.length = flags.length &&
    flags.getLast? ≠ some '-'

/-- What is left after the beginning of a group, and whether the group is still open: flags can
stand in parentheses of their own. -/
def afterGroupOpening? (s : List Char) : Option (List Char × Bool) :=
  match s with
  | '?' :: 'P' :: '<' :: rest | '?' :: '<' :: rest => (afterGroupName? rest).map (·, true)
  | '?' :: rest =>
    let flags := rest.takeWhile fun c => c ≠ ')' && c ≠ ':'
    if !areFlags flags then none
    else
      match rest.drop flags.length with
      | ':' :: rest => some (rest, true)
      | ')' :: rest => if flags.isEmpty then none else some (rest, false)
      | _ => none
  | s => some (s, true)

/-! ## Patterns -/

/-- The fault of a pattern of which `depth` groups are open; `repeatable` tells whether something
stands before that a repetition can repeat. -/
def faultFrom? (fuel depth : Nat) (repeatable : Bool) (s : List Char) : Option Fault :=
  match fuel with
  | 0 => some .malformed
  | fuel + 1 =>
    match s with
    | [] => if depth = 0 then none else some .malformed
    | '(' :: rest =>
      match afterGroupOpening? rest with
      | some (rest, isOpen) => faultFrom? fuel (if isOpen then depth + 1 else depth) false rest
      | none => some .malformed
    | ')' :: rest => if depth = 0 then some .malformed else faultFrom? fuel (depth - 1) true rest
    | '|' :: rest => faultFrom? fuel depth false rest
    | '[' :: rest =>
      match afterClass? (rest.length + 1) 1 (afterOpening rest) with
      | some rest => faultFrom? fuel depth true rest
      | none => some .malformed
    | '\\' :: rest =>
      match readEscape? rest with
      | some (.wordBoundary, rest) =>
        some ((faultFrom? fuel depth true rest).getD .wordBoundary)
      | some (_, rest) => faultFrom? fuel depth true rest
      | none => some .malformed
    | c :: rest =>
      if c = '*' ∨ c = '+' ∨ c = '?' then
        if repeatable then faultFrom? fuel depth true ((Text.afterBeginning? ['?'] rest).getD rest)
        else some .malformed
      else if c = '\x7b' then some .malformed
      else faultFrom? fuel depth true rest

/-- What is left after digits, a decimal point and digits, of which one digit at least is there. -/
def afterDecimal? (s : List Char) : Option (List Char) :=
  let rest := s.dropWhile Text.isDigit
  let behind := ((Text.afterBeginning? ['.'] rest).map (·.dropWhile Text.isDigit)).getD rest
  if (s.take (s.length - behind.length)).any Text.isDigit then some behind else none

/-- Whether a text is an exponent, or nothing. -/
def isExponent (s : List Char) : Bool :=
  match s with
  | [] => true
  | e :: rest =>
    let digits := match rest with
      | '+' :: digits | '-' :: digits => digits
      | digits => digits
    (e = 'e' || e = 'E') && !digits.isEmpty && digits.all Text.isDigit

/-- Whether a text is a number with a plus sign in front, which would be no regular expression. -/
def isSignedNumber (s : List Char) : Bool :=
  match s with
  | '+' :: number =>
    ["inf", "infinity", "nan"].contains (String.ofList (number.map Char.toLower)) ||
      (afterDecimal? number).any isExponent
  | _ => false

/-- The fault of a pattern, if it has one. -/
def fault? (s : List Char) : Option Fault :=
  if isSignedNumber s then none else faultFrom? (s.length + 1) 0 false s

end KeyDirectory.Settings.ValuePattern
