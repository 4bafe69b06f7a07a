import KeyDirectory.Server.Answer

/-!
# Which requests look an identity up

The same answering with any way to look identities up, so that it can be told which requests need
one, and how often; and the requests that do, as a reader of a path would describe them.
-/

namespace KeyDirectory

/-! ## Formats that were registered -/

/-- The formats after a list of registrations, the last of them coming last. -/
def FormatTable.ofRegistrations (registrations : List (String × Format)) : FormatTable :=
  registrations.foldl (fun t (extension, format) => t.register extension format) .empty

/-- The registrations of the formats that the directory offers. -/
def standardRegistrations (suffix : List UInt8) : List (String × Format) :=
  [("", .byClient suffix), ("authorized_keys", .keyFile), ("sh", .script), ("html", .page suffix)]

/-- The last registration for the extension, whatever the case of either, is that of the format. -/
def Registered (registrations : List (String × Format)) (extension : String) (format : Format) :
    Prop :=
  ∃ before after name, registrations = before ++ (name, format) :: after ∧
    Text.lowerCase name = Text.lowerCase extension ∧
    ∀ other ∈ after, Text.lowerCase other.1 ≠ Text.lowerCase extension

/-! ## Failures without details -/

/-- The failures of which a client is told nothing. -/
def Failure.IsHidden (f : Failure) : Prop :=
  ∃ detail, f = .remote detail ∨ f = .invalidKey detail ∨ f = .connection detail ∨
    f = .internal detail ∨ f = .settings detail ∨ f = .http detail

namespace Server

/-! ## Answering with any lookup -/

section

variable {m : Type → Type} [Monad m]

/-- The response with the keys of an identity, however they are looked up. -/
def keysResponseWith (d : Directory) (look : String → m Answer) (today : m Timestamp)
    (path : KeyPath) (client : Client) : m Response := do
  match d.formats.get? path.extension with
  | none => return .notFound
  | some format =>
    match ← look path.identity with
    | .error f => return failureResponse f
    | .ok record =>
      return listingResponse (format.render ⟨path.identity, record, client, ← today⟩)

/-- Answers a request, however identities are looked up. -/
def answerWith (d : Directory) (scheme : Password.Scheme) (files : Files.Node)
    (look : String → m Answer) (today : m Timestamp) (request : Request) : m Response := do
  if request.method ≠ "GET" then return methodNotAllowed
  else
    match Route.ofPath request.path with
    | .index => return pageResponse files d.indexFile indexPage "text/html; charset=utf-8"
    | .robots => return pageResponse files d.robotsFile robots "text/plain"
    | .upload => return uploadResponse scheme d.uploads request
    | .static relative => return staticResponse files d.staticFolder relative
    | .keys path =>
      keysResponseWith d look today path (Client.ofUserAgent (request.header? "user-agent"))
    | .nowhere => return .notFound

/-- Looks an identity up and writes down that it was looked up. -/
def recordingLookups (look : String → m Answer) (identity : String) :
    StateT (List String) m Answer := do
  modify (· ++ [identity])
  StateT.lift (look identity)

/-- A lookup that ends with the failure, whatever it does before. -/
def failingWith (before : String → m Unit) (failure : Failure) (identity : String) :
    m Answer := do
  before identity
  return .error failure

/-- Answers a request and tells which identities were looked up for it. -/
def answerTelling (d : Directory) (scheme : Password.Scheme) (files : Files.Node)
    (look : String → m Answer) (today : m Timestamp) (request : Request) :
    m (Response × List String) :=
  (answerWith d scheme files (recordingLookups look) (StateT.lift today) request).run []

end

/-! ## Requests for keys -/

/-- The paths that are no key paths, whatever their form. -/
def reservedPaths : List String :=
  ["", "/", "/index.html", "/robots.txt", "/favicon.ico"]

/-- The request asks for the keys of an identity in a format that is registered. -/
structure AsksFor (registrations : List (String × Format)) (request : Request) (path : KeyPath)
    (format : Format) : Prop where
  method : request.method = "GET"
  notReserved : request.path ∉ reservedPaths
  notBelow : ¬ "/_/".toList <+: request.path.toList
  parsed : KeyPath.parse? request.path = some path
  registered : Registered registrations path.extension format

end Server

end KeyDirectory
