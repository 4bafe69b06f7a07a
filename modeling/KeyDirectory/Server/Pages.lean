/-!
# Built-in pages

The texts that the server shows unless its settings name files to show instead, and the page
from which a browser uploads a key.
-/

namespace KeyDirectory.Server

/-- Lines of text, each with a line end. -/
def lines (ls : List String) : String :=
  String.join (ls.map (· ++ "\n"))

/-- What every page starts with. -/
def pageHead (title : String) : List String := [
  "<!DOCTYPE html>",
  "<html lang=\"en\">",
  "<head>",
  "<meta charset=\"utf-8\">",
  "<meta name=\"viewport\" content=\"width=device-width, initial-scale=1\">",
  "<title>" ++ title ++ "</title>",
  "</head>",
  "<body>",
  "<h1>" ++ title ++ "</h1>"]

/-- What every page ends with. -/
def pageFoot : List String := [
  "</body>",
  "</html>"]

/-- The page at the root, which tells how to ask for keys. -/
def indexPage : String :=
  lines <| pageHead "keyway" ++ [
    "<p>Serves SSH public keys by username.</p>",
    "<ul>",
    "<li><code>GET /\x7buser\x7d</code> keys as a web page, " ++
      "or as authorized_keys for command line clients</li>",
    "<li><code>GET /\x7buser\x7d.authorized_keys</code> an authorized_keys file</li>",
    "<li><code>GET /\x7buser\x7d.sh</code> a script that installs the keys as " ++
      "<code>~/.ssh/authorized_keys</code></li>",
    "<li><code>GET /\x7buser\x7d.html</code> a web page</li>",
    "</ul>",
    "<p>For example: <code>curl https://this.host/\x7buser\x7d &gt;&gt; " ++
      "~/.ssh/authorized_keys</code></p>"] ++ pageFoot

/-- What crawlers are told: to stay away. -/
def robots : String :=
  lines ["User-agent: *", "Disallow: /"]

/-- The script of the upload page: it sends the key and shows under which address it is served. -/
def uploadScript : List String := [
  "document.getElementById(\"upload\").addEventListener(\"click\", function () \x7b",
  "  var status = document.getElementById(\"status\");",
  "  var scheme = location.protocol === \"https:\" ? \"wss:\" : \"ws:\";",
  "  var socket = new WebSocket(scheme + \"//\" + location.host + location.pathname);",
  "  socket.onopen = function () \x7b",
  "    socket.send(document.getElementById(\"key\").value.trim());",
  "    status.textContent = \"Uploading...\";",
  "  \x7d;",
  "  socket.onmessage = function (event) \x7b",
  "    var url = location.protocol + \"//\" + location.host + \"/\" + event.data;",
  "    status.innerHTML = \"\";",
  "    var link = document.createElement(\"a\");",
  "    link.href = url;",
  "    link.textContent = url;",
  "    status.append(\"Your key is available at \", link, \". Keep this page open.\");",
  "  \x7d;",
  "  socket.onclose = function () \x7b",
  "    status.append(\" Connection closed, the key is no longer served.\");",
  "  \x7d;",
  "\x7d);"]

/-- The page from which a browser uploads a key. -/
def uploadPage : String :=
  lines <| pageHead "Upload a temporary key" ++ [
    "<p>",
    "Paste a public key below. It is served under a generated name for as long as",
    "this page stays open.",
    "</p>",
    "<textarea id=\"key\" rows=\"4\" cols=\"80\" placeholder=\"ssh-ed25519 AAAA...\"></textarea>",
    "<p><button id=\"upload\">Upload</button></p>",
    "<p id=\"status\"></p>",
    "<script>"] ++ uploadScript ++ ["</script>"] ++ pageFoot

end KeyDirectory.Server
