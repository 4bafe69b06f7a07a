import KeyDirectory.Text.Blank
import KeyDirectory.Text.Split

/-!
# Kinds of clients

A client is taken for a command line tool when its `User-Agent` names a known product, and for
a person with a browser otherwise.
-/

namespace KeyDirectory

/-- Who reads the answer. -/
inductive Client where
  | machine
  | human
  deriving DecidableEq, Repr

namespace Client

/-- The products that ask on behalf of a script. -/
def commandLineProducts : List String :=
  ["curl", "HTTPie", "httpie-go", "Wget", "fetch libfetch", "Go", "Go-http-client", "ddclient",
    "Mikrotik", "xh"]

/-- The product a `User-Agent` names: its text up to the first slash, without blanks around. -/
def product (userAgent : String) : String :=
  Text.trimText ((Text.splitText '/' userAgent).headD "")

/-- The kind of a client from its `User-Agent`. -/
def ofUserAgent (userAgent : Option String) : Client :=
  if commandLineProducts.contains (product (userAgent.getD "")) then machine else human

end Client

end KeyDirectory
