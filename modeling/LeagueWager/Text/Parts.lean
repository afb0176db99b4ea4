/-!
# Texts in parts

A text is cut at its separators into parts, at least one, and parts are joined with a separator
between them.
-/

namespace LeagueWager.Text

/-- The parts of a text between separators; at least one. -/
def split (isSeparator : Char → Bool) : List Char → List (List Char)
  | [] => [[]]
  | c :: rest =>
    if isSeparator c then [] :: split isSeparator rest
    else
      match split isSeparator rest with
      | part :: parts => (c :: part) :: parts
      | [] => [[c]]

/-- Texts with a separator between them. -/
def join (separator : Char) : List (List Char) → List Char
  | [] => []
  | [part] => part
  | part :: parts => part ++ separator :: join separator parts

end LeagueWager.Text
