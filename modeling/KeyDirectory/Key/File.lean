import KeyDirectory.Key.Line

/-!
# Authorized_keys files

A file is read line by line.  Blank lines, comment lines and lines that hold no key are passed
over, so a bad line hides nothing but itself; bytes that are not UTF-8 spoil only the line they
stand in.
-/

namespace KeyDirectory.Key

/-- The key that a line of a file contributes. -/
def ofFileLine? (line : List Char) : Option PublicKey :=
  let s := Text.trim line
  match s with
  | [] => none
  | '#' :: _ => none
  | _ => (parseChars s).toOption

/-- The keys of a file, in order. -/
def parseFile (contents : List UInt8) : List PublicKey :=
  (Text.pieces '\n' (Text.Utf8.decodeLossy contents)).filterMap ofFileLine?

end KeyDirectory.Key
