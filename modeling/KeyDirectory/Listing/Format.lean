import KeyDirectory.Listing.KeyFile
import KeyDirectory.Listing.Page
import KeyDirectory.Listing.Script
import KeyDirectory.Text.Lowercase

/-!
# Formats by extension

The extension of a path chooses the format of a listing, whatever its case.  The bare path lets
the client decide: a command line tool gets the file, a person the page.
-/

namespace KeyDirectory

/-- The forms a listing is written in. -/
inductive Format where
  | keyFile
  | script
  /-- A page with a suffix. -/
  | page (suffix : List UInt8)
  /-- The file for a machine, the page for a person. -/
  | byClient (suffix : List UInt8)
  deriving DecidableEq, Repr

/-- Writes a listing. -/
def Format.render : Format → Listing → Rendered
  | keyFile, l => l.keyFile
  | script, l => l.script
  | page suffix, l => l.page suffix
  | byClient suffix, l =>
    match l.client with
    | .machine => l.keyFile
    | .human => l.page suffix

/-- Formats by extension in lower case; of two entries for one extension the first counts. -/
structure FormatTable where
  entries : List (String × Format)
  deriving DecidableEq, Repr

namespace FormatTable

/-- The table without formats. -/
def empty : FormatTable := ⟨[]⟩

/-- Sets the format of an extension. -/
def register (t : FormatTable) (extension : String) (format : Format) : FormatTable :=
  ⟨(Text.lowerCase extension, format) :: t.entries⟩

/-- The format of an extension. -/
def get? (t : FormatTable) (extension : String) : Option Format :=
  t.entries.lookup (Text.lowerCase extension)

/-- The formats that the directory offers; pages end with the suffix. -/
def standard (suffix : List UInt8) : FormatTable :=
  (((empty.register "" (.byClient suffix)).register "authorized_keys" .keyFile).register "sh"
    .script).register "html" (.page suffix)

end FormatTable

end KeyDirectory
