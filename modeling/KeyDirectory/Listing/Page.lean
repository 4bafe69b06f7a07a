import KeyDirectory.Listing.Basic
import KeyDirectory.Text.Entity

/-!
# Listings as pages

A page for people, with a row for each key.  Everything that is not part of the page's own text
is escaped.  A suffix, which the owner of the directory sets, follows the page as it is.
-/

namespace KeyDirectory.Listing

/-- The row of one key. -/
def pageRow (key : PublicKey) : String :=
  "<li><code>" ++ Text.Entity.escape key.canonical ++ "</code><br><small>" ++
    Text.Entity.escape key.fingerprint ++ "</small></li>\n"

/-- The rows of all keys, or one that says that there are none. -/
def pageRows (keys : List PublicKey) : String :=
  if keys.isEmpty then "<li><em>No keys</em></li>\n" else String.join (keys.map pageRow)

/-- The text of the page. -/
def pageText (l : Listing) : String :=
  let identity := Text.Entity.escape l.identity
  "<!DOCTYPE html>\n<html lang=\"en\">\n<head>\n<meta charset=\"utf-8\">\n" ++
    "<meta name=\"viewport\" content=\"width=device-width, initial-scale=1\">\n" ++
    "<title>SSH keys for " ++ identity ++ "</title>\n</head>\n<body>\n" ++
    "<h1>SSH keys for " ++ identity ++ "</h1>\n" ++
    "<p>Source: " ++ l.record.origin.text ++ ". Generated " ++ l.generated.text ++ ".</p>\n" ++
    "<ul>\n" ++ pageRows l.record.keys ++ "</ul>\n" ++
    "<p>\nDownload as <a href=\"/" ++ identity ++ ".authorized_keys\">authorized_keys</a>\n" ++
    "or as a <a href=\"/" ++ identity ++ ".sh\">setup script</a>.\n</p>\n</body>\n</html>\n"

/-- The listing as a page. -/
def page (suffix : List UInt8) (l : Listing) : Rendered where
  contentType := "text/html"
  fileName := none
  body := Text.Utf8.encodeText l.pageText ++ suffix

end KeyDirectory.Listing
