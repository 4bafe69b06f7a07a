import KeyDirectory.Listing.Page
import KeyDirectory.Text.Markup

/-!
# What a page shows

A page said as its tags and the texts after them, without a word about how they are written.
-/

namespace KeyDirectory.Listing

open Text.Markup (Part Tag plain withValue)

/-- The row of a key: its text and its fingerprint. -/
def rowParts : String × String → List Part
  | (key, fingerprint) => [
    plain "li" "",
    plain "code" key,
    plain "/code" "",
    plain "br" "",
    plain "small" fingerprint,
    plain "/small" "",
    plain "/li" "\n"]

/-- The row that says that there are no keys. -/
def noKeysParts : List Part := [
  plain "li" "",
  plain "em" "No keys",
  plain "/em" "",
  plain "/li" "\n"]

/-- What every page begins with. -/
def prologParts : List Part := [
  ⟨⟨"!DOCTYPE", [("html", none)]⟩, "\n"⟩,
  withValue "html" "lang" "en" "\n",
  plain "head" "\n",
  withValue "meta" "charset" "utf-8" "\n",
  ⟨⟨"meta", [("name", some "viewport"),
    ("content", some "width=device-width, initial-scale=1")]⟩, "\n"⟩]

/-- What stands before the rows. -/
def headParts (identity source time : String) : List Part := [
  plain "title" ("SSH keys for " ++ identity),
  plain "/title" "\n",
  plain "/head" "\n",
  plain "body" "\n",
  plain "h1" ("SSH keys for " ++ identity),
  plain "/h1" "\n",
  plain "p" ("Source: " ++ source ++ ". Generated " ++ time ++ "."),
  plain "/p" "\n",
  plain "ul" "\n"]

/-- What stands after the rows. -/
def footParts (identity : String) : List Part := [
  plain "/ul" "\n",
  plain "p" "\nDownload as ",
  withValue "a" "href" ("/" ++ identity ++ ".authorized_keys") "authorized_keys",
  plain "/a" "\nor as a ",
  withValue "a" "href" ("/" ++ identity ++ ".sh") "setup script",
  plain "/a" ".\n",
  plain "/p" "\n",
  plain "/body" "\n",
  plain "/html" "\n"]

/-- A page with the given rows, or with the one that says that there are none. -/
def pageParts (identity source time : String) (rows : List (String × String)) : List Part :=
  prologParts ++ headParts identity source time ++
    (if rows = [] then noKeysParts else rows.flatMap rowParts) ++ footParts identity

/-- The page of a listing, with a row for each key in order. -/
def pageView (l : Listing) : List Part :=
  pageParts l.identity l.record.origin.text l.generated.text
    (l.record.keys.map fun key => (key.canonical, key.fingerprint))

/-- The tags of a page with so many rows, and where the values of their attributes are. -/
def pageOutline (rows : Nat) : List Tag :=
  (pageParts "" "" "" (List.replicate rows ("", ""))).map Part.outline

end KeyDirectory.Listing
