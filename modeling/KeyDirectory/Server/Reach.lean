import KeyDirectory.Server.Dispatch
import KeyDirectory.Server.LegalBlock
import KeyDirectory.Source.Leaves
import KeyDirectory.Upload.Tenancy

/-!
# Asking for the keys of an identity

The paths under which keys are asked for, written out, and a lookup that tells which sources were
asked.
-/

namespace KeyDirectory

/-- A path written out, with or without a slash at its end. -/
def KeyPath.text (p : KeyPath) (slash : Bool) : String :=
  "/" ++ p.identity ++ (if p.extension.isEmpty then "" else "." ++ p.extension) ++
    if slash then "/" else ""

/-- What may follow a path in the target of a request: nothing, or a query. -/
def IsQuery (text : String) : Prop :=
  text = "" ∨ ∃ rest, text = "?" ++ rest

/-- A text is a word of small letters but for the case of its letters. -/
def IsSpelling (word text : String) : Prop :=
  text.toList.map Char.toLower = word.toList

instance (word text : String) : Decidable (IsSpelling word text) :=
  inferInstanceAs (Decidable (_ = _))

/-- Looks an identity up and tells which sources were asked, and for which identity. -/
def Directory.resolveTelling (d : Directory) (outside : Server.Outside ω) (identity : String)
    (state : DirectoryState) (world : ω) :
    ((Answer × List (Source × String)) × DirectoryState) × ω :=
  (((d.chain.resolve (Chain.recording (d.ask outside.now outside.exchange)) identity).run
    []).run state).run world

end KeyDirectory
