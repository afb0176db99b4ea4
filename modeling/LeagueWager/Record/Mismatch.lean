import LeagueWager.Text.Quoted

/-!
# Values that do not fit a record

A well-formed document may still not hold the record that is asked for. A mismatch names what was
found and what was expected; `Mismatch.message` is its wording.
-/

namespace LeagueWager

/-- What stands in a document, as far as a message names it. -/
inductive Found where
  | null
  | bool (value : Bool)
  | whole (value : Int)
  /-- A number with a fraction or an exponent, in the spelling of the document's format. -/
  | real (spelling : String)
  | text (value : String)
  | list
  | map
  deriving DecidableEq, Repr

/-- The words for what was found. -/
def Found.message : Found → String
  | .null => "null"
  | .bool value => s!"boolean `{value}`"
  | .whole value => s!"integer `{value}`"
  | .real spelling => s!"floating point `{spelling}`"
  | .text value => "string " ++ Text.quoted value
  | .list => "sequence"
  | .map => "map"

/-- Why a well-formed value is not the record that is asked for. -/
inductive Mismatch where
  /-- A value of another kind. -/
  | invalidType (found : Found) (expected : String)
  /-- A value of the right kind, out of its range. -/
  | invalidValue (found : Found) (expected : String)
  /-- A list that ends before its last element. -/
  | invalidLength (length : Nat) (expected : String)
  /-- A name that is none of the known ones. -/
  | unknownVariant (name : String) (known : List String)
  /-- A field that has to be there. -/
  | missingField (name : String)
  /-- A field given twice. -/
  | duplicateField (name : String)
  deriving DecidableEq, Repr

/-- The known names of a message: one, two with `or`, or `one of` a list. -/
def Mismatch.choices (known : List String) : String :=
  match known.map fun name => s!"`{name}`" with
  | [] => "there are no variants"
  | [only] => "expected " ++ only
  | [one, other] => "expected " ++ one ++ " or " ++ other
  | names => "expected one of " ++ ", ".intercalate names

/-- What is reported of a mismatch. -/
def Mismatch.message : Mismatch → String
  | .invalidType found expected => s!"invalid type: {found.message}, expected {expected}"
  | .invalidValue found expected => s!"invalid value: {found.message}, expected {expected}"
  | .invalidLength length expected => s!"invalid length {length}, expected {expected}"
  | .unknownVariant name known => s!"unknown variant `{name}`, " ++ Mismatch.choices known
  | .missingField name => s!"missing field `{name}`"
  | .duplicateField name => s!"duplicate field `{name}`"

end LeagueWager
