import KeyDirectory.Client
import KeyDirectory.Record
import KeyDirectory.Timestamp

/-!
# Listings

A listing is what one answer shows: the keys of an identity, where they come from and when they
were looked up.
-/

namespace KeyDirectory

/-- The contents of one answer. -/
structure Listing where
  identity : String
  record : KeyRecord
  client : Client
  generated : Timestamp
  deriving DecidableEq, Repr

/-- A listing written out, with what the headers of an answer tell about it. -/
structure Rendered where
  contentType : String
  /-- The name of the file that a browser saves, for a listing that is downloaded. -/
  fileName : Option String
  body : List UInt8
  deriving DecidableEq, Repr

/-- The value of the `Content-Disposition` header. -/
def Rendered.contentDisposition (r : Rendered) : Option String :=
  r.fileName.map fun name => "attachment; filename=\"" ++ name ++ "\""

namespace Listing

/-- The canonical texts of the keys. -/
def lines (l : Listing) : List String :=
  l.record.keys.map PublicKey.canonical

/-- The canonical texts of the keys, each with a line end. -/
def keyLines (l : Listing) : String :=
  String.join (l.lines.map (· ++ "\n"))

/-- Who the listing is for, from where and from when, as comments say it. -/
def summary (l : Listing) : String :=
  l.identity ++ " (" ++ l.record.origin.text ++ "), generated " ++ l.generated.text

end Listing

end KeyDirectory
