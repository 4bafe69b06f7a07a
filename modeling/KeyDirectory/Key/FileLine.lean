import KeyDirectory.Key.File

/-!
# The lines of a file

What one line of a file is worth, said without the reader of files: its text holds a key, or the
line is noise.
-/

namespace KeyDirectory.Key

/-- The byte that ends a line. -/
def newline : UInt8 := 0x0A

/-- The byte that some writers put in front of the one that ends a line. -/
def carriageReturn : UInt8 := 0x0D

/-- The text of a line: U+FFFD for what is not UTF-8, and no blanks at either end. -/
def lineText (line : List UInt8) : String :=
  String.ofList (Text.trim (Text.Utf8.decodeLossy line))

/-- The line holds the key. -/
structure Contributes (line : List UInt8) (key : PublicKey) : Prop where
  notBlank : lineText line ≠ ""
  notComment : ∀ rest, lineText line ≠ "#" ++ rest
  parsed : parse (lineText line) = .ok key

/-- The line holds nothing, a comment, or something else than a key. -/
inductive IsNoise (line : List UInt8) : Prop where
  | blank (h : lineText line = "")
  | comment (rest : String) (h : lineText line = "#" ++ rest)
  | unparseable (failure : Failure) (h : parse (lineText line) = .error failure)

/-- The file with the given lines. -/
def fileOf (lines : List (List UInt8)) : List UInt8 :=
  [newline].intercalate lines

/-- Two files have the same lines but for noise that was inserted or removed, or changed into
other noise. -/
inductive DifferInNoise : List (List UInt8) → List (List UInt8) → Prop where
  | nil : DifferInNoise [] []
  | line (line : List UInt8) {lines lines' : List (List UInt8)} (h : DifferInNoise lines lines') :
      DifferInNoise (line :: lines) (line :: lines')
  | inserted {noise : List UInt8} (hline : newline ∉ noise) (hnoise : IsNoise noise)
      {lines lines' : List (List UInt8)} (h : DifferInNoise lines lines') :
      DifferInNoise lines (noise :: lines')
  | removed {noise : List UInt8} (hline : newline ∉ noise) (hnoise : IsNoise noise)
      {lines lines' : List (List UInt8)} (h : DifferInNoise lines lines') :
      DifferInNoise (noise :: lines) lines'

end KeyDirectory.Key
