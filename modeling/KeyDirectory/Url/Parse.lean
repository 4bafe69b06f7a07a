import KeyDirectory.Url.Basic
import KeyDirectory.Text.Number

/-!
# Reading URLs

A URL is read from its scheme on: the authority after two slashes, the path up to a question
mark or number sign, the query and the fragment.  Blanks around and line breaks within the text
do not count.  In paths `.` and `..` are carried out.
-/

namespace KeyDirectory

namespace Url

/-! ## What is percent-encoded -/

/-- What a fragment cannot hold. -/
def escapesFragment (c : Char) : Bool :=
  Host.isControl c || " \"<>\x60".toList.contains c

/-- What a path cannot hold. -/
def escapesPath (c : Char) : Bool :=
  escapesFragment c || "#?\x7b\x7d".toList.contains c

/-- What a user name or a password cannot hold. -/
def escapesCredential (c : Char) : Bool :=
  escapesPath c || "/:;=@[\\]^|".toList.contains c

/-- What a query cannot hold. -/
def escapesQuery (scheme : String) (c : Char) : Bool :=
  Host.isControl c || " \"#<>".toList.contains c || (isSpecial scheme && c = '\'')

/-- A part of a URL with everything encoded that cannot stand there. -/
def encoded (escapes : Char → Bool) (s : List Char) : String :=
  String.ofList (Text.Percent.encode escapes s)

/-! ## Paths -/

/-- Whether a character separates segments. -/
def isSlash (scheme : String) (c : Char) : Bool :=
  c = '/' || (isSpecial scheme && c = '\\')

/-- The text between slashes. -/
def pathPieces (scheme : String) (s : List Char) : List (List Char) :=
  Text.pieces '/' (s.map fun c => if isSlash scheme c then '/' else c)

/-- A segment with the encoded full stops decoded. -/
def plainStops : List Char → List Char
  | '%' :: '2' :: 'e' :: rest | '%' :: '2' :: 'E' :: rest => '.' :: plainStops rest
  | c :: rest => c :: plainStops rest
  | [] => []

/-- Whether a segment stays where it is. -/
def isHere (s : List Char) : Bool :=
  plainStops s = ['.']

/-- Whether a segment leads to the folder above. -/
def isUp (s : List Char) : Bool :=
  plainStops s = ['.', '.']

/-- The segments after those in `above`. -/
def segmentsOf (escapes : Char → Bool) (above : List String) : List (List Char) → List String
  | [] => above
  | [last] =>
    if isUp last then above.dropLast ++ [""]
    else if isHere last then above ++ [""]
    else above ++ [encoded escapes last]
  | piece :: rest =>
    if isUp piece then segmentsOf escapes above.dropLast rest
    else if isHere piece then segmentsOf escapes above rest
    else segmentsOf escapes (above ++ [encoded escapes piece]) rest

/-- The path after a host. -/
def pathOf (scheme : String) (s : List Char) : Path :=
  match s with
  | [] => .segments (if isSpecial scheme then [""] else [])
  | c :: rest =>
    .segments (segmentsOf escapesPath [] (pathPieces scheme (if isSlash scheme c then rest else s)))

/-! ## The parts of the text -/

/-- The text up to a question mark or number sign, the query and the fragment. -/
def cutTail (scheme : String) (s : List Char) : List Char × Option String × Option String :=
  let (main, fragment) :=
    match Text.cutAtFirst '#' s with
    | some (main, fragment) => (main, some (encoded escapesFragment fragment))
    | none => (s, none)
  match Text.cutAtFirst '?' main with
  | some (before, query) => (before, some (encoded (escapesQuery scheme) query), fragment)
  | none => (main, none, fragment)

/-- The text around the last `@`. -/
def cutAtLastAt (s : List Char) : Option (List Char × List Char) :=
  (Text.cutAtFirst '@' s.reverse).map fun (after, before) => (before.reverse, after.reverse)

/-- The text around the colon that stands outside brackets. -/
def cutPort (s : List Char) (inBrackets : Bool) : List Char × Option (List Char) :=
  match s with
  | [] => ([], none)
  | c :: rest =>
    if c = ':' && !inBrackets then ([], some rest)
    else
      let inBrackets := if c = '[' then true else if c = ']' then false else inBrackets
      let (host, port) := cutPort rest inBrackets
      (c :: host, port)

/-- The port, unless it is missing or the usual one. -/
def readPort (scheme : String) (digits : List Char) : Except Fault (Option Nat) :=
  if digits.isEmpty then .ok none
  else
    match Text.readDigits? Text.maxWord16 digits with
    | none => .error .badPort
    | some port => .ok (if usualPort? scheme = some port then none else some port)

/-- The user and the password in front of a host; an empty password is none. -/
def readCredentials (s : List Char) : String × Option String :=
  match Text.cutAtFirst ':' s with
  | none => (encoded escapesCredential s, none)
  | some (user, password) =>
    (encoded escapesCredential user,
      if password.isEmpty then none else some (encoded escapesCredential password))

/-- The authority of a URL and what is left after its port, which a backslash may end under any
scheme; `isLast` tells whether the URL ends with it.  A host may be missing only under an unknown
scheme and with nothing that needs one. -/
def readAuthority (scheme : String) (isLast : Bool) (s : List Char) :
    Except Fault (Authority × List Char) := do
  let (credentials, rest) := (cutAtLastAt s).getD ([], s)
  let (hostText, portText) := cutPort rest false
  let (username, password) := readCredentials credentials
  if hostText.isEmpty && (isSpecial scheme || portText.isSome || !username.isEmpty ||
      password.isSome || (s = ['@'] && !isLast)) then
    .error .emptyHost
  else
    let host ← if isSpecial scheme then Host.parse hostText else Host.parsePlain hostText
    let digits := (portText.getD []).takeWhile (· ≠ '\\')
    let port ← readPort scheme digits
    return (⟨username, password, host, port⟩, (portText.getD []).drop digits.length)

/-- A letter and a colon or bar, which some systems put in front of a path. -/
def isDrive (s : List Char) : Bool :=
  match s with
  | [a, b] => a.isAlpha && (b = ':' || b = '|')
  | _ => false

/-- The authority of this machine. -/
def thisMachine : Authority := ⟨"", none, .name "", none⟩

/-- The path of a file: empty segments in front do not count. -/
def filePathOf (s : List Char) : Path :=
  match pathOf "file" s with
  | .segments parts =>
    let parts := parts.dropWhile String.isEmpty
    .segments (if parts.isEmpty then [""] else parts)
  | path => path

/-- The authority and the path of a URL of the scheme `file`. -/
def readFile (s : List Char) : Except Fault (Authority × Path) :=
  match s with
  | a :: b :: rest =>
    if isSlash "file" a && isSlash "file" b then
      let hostText := rest.takeWhile fun c => !isSlash "file" c
      if hostText.isEmpty || isDrive hostText then .ok (thisMachine, filePathOf rest)
      else do
        let host ← Host.parse hostText
        let host := if host = .name "localhost" then .name "" else host
        return ({ thisMachine with host := host }, filePathOf (rest.drop hostText.length))
    else .ok (thisMachine, filePathOf s)
  | _ => .ok (thisMachine, filePathOf s)

/-- A URL whose scheme is known to be there. -/
def readAfterScheme (scheme : String) (s : List Char) : Except Fault Url := do
  let (main, query, fragment) := cutTail scheme s
  let endsWith (rest : List Char) : Bool := rest.isEmpty && query.isNone && fragment.isNone
  if scheme = "file" then
    let (authority, path) ← readFile main
    return ⟨scheme, some authority, path, query, fragment⟩
  else if isSpecial scheme then
    let main := main.dropWhile (isSlash scheme)
    let path := main.dropWhile fun c => !isSlash scheme c
    let (authority, left) ←
      readAuthority scheme (endsWith path) (main.takeWhile fun c => !isSlash scheme c)
    return ⟨scheme, some authority, pathOf scheme (left ++ path), query, fragment⟩
  else
    match main with
    | '/' :: '/' :: rest =>
      let path := rest.dropWhile (· ≠ '/')
      let (authority, left) ←
        readAuthority scheme (endsWith path) (rest.takeWhile (· ≠ '/'))
      return ⟨scheme, some authority, pathOf scheme (left ++ path), query, fragment⟩
    | '/' :: _ => return ⟨scheme, none, pathOf scheme main, query, fragment⟩
    | _ => return ⟨scheme, none, .plain (encoded Host.isControl main), query, fragment⟩

/-- The scheme in front of the first colon, in lower case. -/
def readScheme? (s : List Char) : Option (String × List Char) := do
  let (scheme, rest) ← Text.cutAtFirst ':' s
  match scheme with
  | [] => none
  | c :: others =>
    if c.isAlpha && others.all (fun c => c.isAlphanum || c = '+' || c = '-' || c = '.') then
      some (String.ofList (scheme.map Char.toLower), rest)
    else none

/-- The text that counts: without controls and blanks around, and without tabs and line ends. -/
def significant (s : List Char) : List Char :=
  let isEdge (c : Char) : Bool := c.toNat ≤ 32
  ((s.dropWhile isEdge).reverse.dropWhile isEdge).reverse.filter fun c =>
    c ≠ '\t' && c ≠ '\n' && c ≠ '\r'

/-- Reads a URL that stands alone. -/
def parse (text : String) : Except Fault Url :=
  match readScheme? (significant text.toList) with
  | none => .error .relative
  | some (scheme, rest) => readAfterScheme scheme rest

/-! ## Paths below a URL -/

/-- What a segment cannot hold. -/
def escapesSegment (scheme : String) (c : Char) : Bool :=
  escapesPath c || c = '/' || c = '%' || (isSpecial scheme && c = '\\')

/-- The segments with one more, which takes the place of a root without a name. -/
def addSegment (scheme : String) (above : List String) (name : String) : List String :=
  if name = "." ∨ name = ".." then above
  else
    let above := if above = [""] then [] else above
    match name.toList.filter fun c => c ≠ '\t' && c ≠ '\n' && c ≠ '\r' with
    | ['.'] => above ++ [""]
    | ['.', '.'] => above.dropLast ++ [""]
    | kept => above ++ [encoded (escapesSegment scheme) kept]

/-- The segments without an empty one at the end, except that something is left. -/
def dropEmptyLast (parts : List String) : List String :=
  if parts.length > 1 ∧ parts.getLast? = some "" then parts.dropLast else parts

/-- The URL with the given segments added to its path, after an empty last one is dropped. -/
def below (u : Url) (names : List String) : Url :=
  match u.path with
  | .plain _ => u
  | .segments parts =>
    { u with path := .segments (names.foldl (addSegment u.scheme) (dropEmptyLast parts)) }

end Url

end KeyDirectory
