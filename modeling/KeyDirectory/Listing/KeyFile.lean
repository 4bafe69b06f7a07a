import KeyDirectory.Listing.Basic

/-!
# Listings as authorized_keys files

One comment line and the keys, one to a line.
-/

namespace KeyDirectory.Listing

/-- The text of the file. -/
def keyFileText (l : Listing) : String :=
  "# authorized_keys for " ++ l.summary ++ "\n" ++ l.keyLines

/-- The listing as an authorized_keys file. -/
def keyFile (l : Listing) : Rendered where
  contentType := "text/plain"
  fileName := some "authorized_keys"
  body := Text.Utf8.encodeText l.keyFileText

end KeyDirectory.Listing
