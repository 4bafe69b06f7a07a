import KeyDirectory.Password.Scheme
import KeyDirectory.Request.BasicCredentials

/-!
# Access to uploads

Uploads may be guarded by one user name and password.  The password is given in the settings as
itself or as an encoded hash; either way only a hash is kept.
-/

namespace KeyDirectory.Upload

/-- The one user that may upload. -/
structure Access where
  username : String
  /-- The text kept for the password. -/
  kept : String
  deriving DecidableEq, Repr

namespace Access

/-- Reads `user:password`.  The user must not be empty. -/
def ofCredentials (scheme : Password.Scheme) (salt : List UInt8) (credentials : String) :
    Except Failure Access :=
  match Text.cutText ':' credentials with
  | none => .error (.settings "upload auth must be user:password")
  | some (username, password) =>
    if username.isEmpty then .error (.settings "upload auth username is empty")
    else if scheme.isKept password then .ok ⟨username, password⟩
    else match scheme.hash salt password with
      | .ok kept => .ok ⟨username, kept⟩
      | .error failure => .error failure

/-- Whether a password fits; a text kept that cannot be used fits none. -/
def accepts (scheme : Password.Scheme) (access : Access) (password : String) : Bool :=
  match scheme.verify password access.kept with
  | .ok fits => fits
  | .error _ => false

/-- Checks the value of an `Authorization` header. -/
def check (scheme : Password.Scheme) (access : Access) (authorization : Option String) :
    Except Failure Unit :=
  match authorization.bind BasicCredentials.parse? with
  | none => .error (.unauthorized "missing credentials")
  | some given =>
    if access.accepts scheme given.password && given.user = access.username then .ok ()
    else .error (.unauthorized "invalid credentials")

/-- The realm that a client is told. -/
def realm : String := "keyway upload"

/-- The value of the `WWW-Authenticate` header that asks for credentials. -/
def challenge : String := "Basic realm=\"" ++ realm ++ "\""

end Access

end KeyDirectory.Upload
