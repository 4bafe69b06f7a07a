import KeyDirectory.Text.Json

/-!
# Key listings of the remote directory

The remote directory answers with a JSON array.  Each item is an object with the line of one key
under the name `key`, next to anything else, or an array of just that line.
-/

namespace KeyDirectory.Remote

open Text.Json

/-- The name under which an item holds its key. -/
def keyMember : String := "key"

/-- The text of a value, if it is one. -/
def textOf? : Value → Option String
  | .text pieces => decodePieces? pieces
  | _ => none

/-- The line of a key that an item holds; the name must not be given twice. -/
def keyOfItem? : Value → Option String
  | .array [line] => textOf? line
  | .object members => do
    let named ← members.mapM fun (name, value) => (decodePieces? name).map fun name => (name, value)
    match named.filter fun (name, _) => name = keyMember with
    | [(_, line)] => textOf? line
    | _ => none
  | _ => none

/-- The lines of the keys in a listing. -/
def keyLines? (body : List UInt8) : Option (List String) :=
  match parse? body with
  | some (.array items) => items.mapM keyOfItem?
  | _ => none

end KeyDirectory.Remote
