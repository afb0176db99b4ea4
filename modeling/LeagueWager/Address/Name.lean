import LeagueWager.Address.Label
import LeagueWager.Text.Parts

/-!
# Names of hosts

A name may be given in any script. It is spelled in the alphabet of names, cut into labels, and
written in the letters of ASCII.
-/

namespace LeagueWager.Address.Name

open Text (split join)

/-- The labels of a name, spelled in the alphabet of names. -/
def labels? (name : List Char) : Option (List (List Char)) := do
  let spelled ← name.mapM spell?
  some (split (· == '.') (Text.composed spelled.flatten))

/-- The texts of labels may stand in one name. -/
def isSound (texts : List (List Char)) : Bool :=
  texts.all Label.isSound && (!texts.any Label.hasRightward || texts.all Label.isOneWay)

/-- The name in the letters of ASCII. -/
def ascii? (name : List Char) : Option (List Char) := do
  let labels ← labels? name
  let texts ← labels.mapM Label.text?
  if isSound texts then some (join '.' (labels.map Punycode.encode)) else none

end LeagueWager.Address.Name
