import LeagueWager.Team

/-!
# The league table

One row of the table for each team.
-/

namespace LeagueWager

/-- A row of the league table. -/
structure Standing where
  position : UInt32
  team : Team
  playedGames : Int32
  won : Int32
  draw : Int32
  lost : Int32
  points : Int32
  goalsFor : Int32
  goalsAgainst : Int32
  goalDifference : Int32
  deriving DecidableEq, Repr

end LeagueWager
