import KeyDirectory.Files.Tree

/-!
# Content types of files

The content type that a file is served with, by the extension of its name.
-/

namespace KeyDirectory.Files

/-- The name of the file that a path ends in, when it does not end in a step upwards. -/
def fileName? (path : String) : Option String :=
  match (steps path).getLast? with
  | none | some ".." => none
  | some name => some name

/-- The part of a name after its last point; a point that the name starts with does not count. -/
def extension? (name : String) : Option String :=
  let reversed := name.toList.reverse
  match reversed.dropWhile (· ≠ '.') with
  | [] | [_] => none
  | _ :: _ => some (String.ofList (reversed.takeWhile (· ≠ '.')).reverse)

/-- The content type of an extension in lower case. -/
def contentTypeOf : String → String
  | "html" | "htm" => "text/html; charset=utf-8"
  | "css" => "text/css"
  | "js" => "text/javascript"
  | "json" => "application/json"
  | "txt" => "text/plain; charset=utf-8"
  | "svg" => "image/svg+xml"
  | "png" => "image/png"
  | "jpg" | "jpeg" => "image/jpeg"
  | "gif" => "image/gif"
  | "ico" => "image/x-icon"
  | "webp" => "image/webp"
  | "woff2" => "font/woff2"
  | _ => "application/octet-stream"

/-- The content type of the file at a path. -/
def contentType (path : String) : String :=
  let extension := ((fileName? path).bind extension?).getD ""
  contentTypeOf (String.ofList (extension.toList.map Char.toLower))

end KeyDirectory.Files
