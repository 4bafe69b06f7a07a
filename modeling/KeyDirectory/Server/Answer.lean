import KeyDirectory.Directory.Basic
import KeyDirectory.Request.KeyPath
import KeyDirectory.Server.Message
import KeyDirectory.Server.Pages

/-!
# Answering requests

Only `GET` is answered.  The path leads to a fixed page, to the upload point, to a static file
or to the keys of an identity; nothing else looks an identity up.
-/

namespace KeyDirectory.Server

/-- Where a path leads. -/
inductive Route where
  | index
  | robots
  | upload
  /-- A file below the static folder. -/
  | static (relative : String)
  | keys (path : KeyPath)
  | nowhere
  deriving DecidableEq, Repr

/-- Where a path leads. -/
def Route.ofPath (path : String) : Route :=
  if path = "" ∨ path = "/" ∨ path = "/index.html" then .index
  else if path = "/robots.txt" then .robots
  else if path = "/favicon.ico" then .nowhere
  else if path = "/_/upload" ∨ path = "/_/upload/" then .upload
  else
    match Text.afterBeginning? "/_/".toList path.toList with
    | some relative => .static (String.ofList relative)
    | none =>
      match KeyPath.parse? path with
      | some path => .keys path
      | none => .nowhere

/-- The response to a request of another method. -/
def methodNotAllowed : Response :=
  let response := Response.ofText 405 "Method not allowed"
  { response with headers := response.headers ++ [("allow", "GET")] }

/-- The response to a failure. -/
def failureResponse (f : Failure) : Response :=
  .ofText f.status f.clientText

/-- The response that shows a listing. -/
def listingResponse (r : Rendered) : Response :=
  ⟨200, ("content-type", r.contentType) ::
    (match r.contentDisposition with
      | some value => [("content-disposition", value)]
      | none => []), r.body⟩

/-- The response with a file that settings name, or the text built in. -/
def pageResponse (files : Files.Node) (path : Option String) (builtIn contentType : String) :
    Response :=
  match Files.readOr files path builtIn with
  | .ok body => ⟨200, [("content-type", contentType)], body⟩
  | .error f => failureResponse f

/-- The response with a file below the static folder. -/
def staticResponse (files : Files.Node) (folder : Option String) (relative : String) : Response :=
  match folder with
  | none => .notFound
  | some folder =>
    match Files.serve files folder relative with
    | .ok (some file) => ⟨200, [("content-type", file.contentType)], file.body⟩
    | .ok none => .notFound
    | .error f => failureResponse f

/-- The response of the upload point: the page, a refusal, or the handshake after which the
connection uploads a key. -/
def uploadResponse (scheme : Password.Scheme) (point : Option UploadPoint) (request : Request) :
    Response :=
  match point with
  | none => .notFound
  | some point =>
    let allowed := match point.access with
      | none => true
      | some access => (access.check scheme (request.header? "authorization")).isOk
    if !allowed then
      let response := Response.ofText 401 "Unauthorized"
      { response with
        headers := response.headers ++ [("www-authenticate", Upload.Access.challenge)] }
    else if !request.asksForWebSocket then
      ⟨200, [("content-type", "text/html; charset=utf-8")],
        Text.Utf8.encodeText uploadPage ++ point.suffix⟩
    else
      match request.handshake? with
      | some response => response
      | none => .ofText 400 "WebSocket upgrade failed"

variable {m : Type → Type} [Monad m]

/-- The response with the keys of an identity, in the format that the path names; `today` tells
the time that is written into listings. -/
def keysResponse (d : Directory) (now : m Moment) (today : m Timestamp)
    (exchange : Remote.Request → m Remote.Outcome) (path : KeyPath) (client : Client) :
    StateT DirectoryState m Response := do
  match d.formats.get? path.extension with
  | none => return .notFound
  | some format =>
    match ← d.resolve now exchange path.identity with
    | .error f => return failureResponse f
    | .ok record =>
      return listingResponse (format.render ⟨path.identity, record, client, ← today⟩)

/-- Answers a request.  After a response of status 101 the connection belongs to an upload. -/
def answer (d : Directory) (scheme : Password.Scheme) (now : m Moment) (today : m Timestamp)
    (exchange : Remote.Request → m Remote.Outcome) (request : Request) :
    StateT DirectoryState m Response := do
  if request.method ≠ "GET" then return methodNotAllowed
  else
    let files := (← get).files
    match Route.ofPath request.path with
    | .index => return pageResponse files d.indexFile indexPage "text/html; charset=utf-8"
    | .robots => return pageResponse files d.robotsFile robots "text/plain"
    | .upload => return uploadResponse scheme d.uploads request
    | .static relative => return staticResponse files d.staticFolder relative
    | .keys path =>
      keysResponse d now today exchange path (Client.ofUserAgent (request.header? "user-agent"))
    | .nowhere => return .notFound

end KeyDirectory.Server
