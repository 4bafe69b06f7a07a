import KeyDirectory.Settings.Basic
import KeyDirectory.Text.Lowercase

/-!
# Whom the settings refuse

The identities to refuse for legal reasons, in the words of those who write the list.
-/

namespace KeyDirectory.Settings

/-- The elements of the list of identities to refuse, as they were written. -/
def legalBlockElements (s : Settings) : List String :=
  match s.legalBlock with
  | none => []
  | some text => Text.splitText ',' text

/-- An identity is refused when some element, without the blanks around it, is the same but for
case.  A blank element is no identity. -/
def Refuses (s : Settings) (identity : String) : Prop :=
  ∃ element ∈ s.legalBlockElements, Text.trimText element ≠ "" ∧
    Text.lowerCase (Text.trimText element) = Text.lowerCase identity

instance (s : Settings) (identity : String) : Decidable (s.Refuses identity) :=
  inferInstanceAs (Decidable (∃ element ∈ s.legalBlockElements, _))

end KeyDirectory.Settings
