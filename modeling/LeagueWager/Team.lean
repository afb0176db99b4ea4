/-!
# Teams and their names

The league's data call a few clubs by a short name that nobody uses at the table. Such a club is
shown under its display name, and answers to either name.

* `displayName_idem`: showing a shown name changes nothing.
-/

namespace LeagueWager

/-- Short names that are shown differently, with the names they are shown under. -/
def displayNames : List (String × String) := [
  ("Brighton Hove", "Brighton"),
  ("Wolverhampton", "Wolves"),
  ("Nottingham", "Notts Forest")]

/-- The name under which a short name is shown. -/
def displayName (shortName : String) : String :=
  (displayNames.lookup shortName).getD shortName

/-- A club as it stands in tables and fixtures. -/
structure Team where
  id : UInt64
  name : String
  shortName : String
  /-- The three-letter code. -/
  code : String
  deriving DecidableEq, Repr

namespace Team

/-- The name under which the team is shown. -/
def displayName (team : Team) : String := LeagueWager.displayName team.shortName

/-- The wager calls this team `name`. -/
def answersTo (team : Team) (name : String) : Bool :=
  team.shortName == name || team.displayName == name

theorem answersTo_iff {team : Team} {name : String} :
    team.answersTo name = true ↔ team.shortName = name ∨ team.displayName = name := by
  simp [answersTo]

theorem answersTo_shortName (team : Team) : team.answersTo team.shortName = true := by
  simp [answersTo]

end Team

theorem displayName_idem (name : String) : displayName (displayName name) = displayName name := by
  simp only [displayName, displayNames, List.lookup_cons, List.lookup_nil]
  repeat' split
  all_goals simp_all

end LeagueWager
