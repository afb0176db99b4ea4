import LeagueWager.Checked
import LeagueWager.Fixture
import LeagueWager.Standing
import LeagueWager.Wager

/-!
# Projections

A projection is what the settlement needs to know of one party: the points of its team, and how
much can still happen. A live match is backed out: its points as they stand are taken from the
adjusted points, and it counts as a fixture still to be completed.
-/

namespace LeagueWager

/-- What is shown of a match that is being played. -/
structure LiveMatch where
  /-- The home side's code. -/
  homeTeam : String
  awayTeam : String
  homeScore : UInt32
  awayScore : UInt32
  deriving DecidableEq, Repr

/-- What the settlement knows of one party. -/
structure Projection where
  teamName : String
  playerName : String
  /-- Points in the table, a live match included. -/
  currentPoints : Int32
  /-- Points without what a live match is worth at the moment. -/
  adjustedPoints : Int32
  matchesPlayed : Int32
  /-- Fixtures still to be completed, a live match among them. -/
  remainingMatches : Int32
  /-- Unfinished fixtures between the two rivals. -/
  remainingHeadToHead : Int32
  liveMatch : Option LiveMatch
  deriving DecidableEq, Repr

namespace Projection

/-- A match is being played. -/
def isLive (projection : Projection) : Bool := projection.liveMatch.isSome

/-- How many of the fixtures are not finished. -/
def unfinished (fixtures : List Fixture) : Nat :=
  fixtures.countP fun fixture => !fixture.status.hasFinished

/-- What is shown of a fixture that is being played. -/
def liveView (fixture : Fixture) : LiveMatch where
  homeTeam := fixture.homeTeam.code
  awayTeam := fixture.awayTeam.code
  homeScore := fixture.homeGoals
  awayScore := fixture.awayGoals

/-- The projection of a party from its table row, the fixtures between its rivals, and its latest
fixture. The count of fixtures is kept modulo `2 ^ 32`. -/
def build (rules : Rules) (assignment : Assignment) (row : Standing) (headToHead : List Fixture)
    (latest : Fixture) : Except Overflow Projection := do
  let toPlay ← Checked.sub rules.seasonLength row.playedGames
  let toPlay := max toPlay 0
  let remainingHeadToHead := Int32.ofNat (unfinished headToHead)
  if latest.status.isLive then
    -- the table already counts the running match; take its points out and play it again
    let adjustedPoints ← Checked.sub row.points (latest.pointsFor assignment.team)
    let remainingMatches ← Checked.add toPlay 1
    .ok ⟨assignment.team, assignment.player, row.points, adjustedPoints, row.playedGames,
      remainingMatches, remainingHeadToHead, some (liveView latest)⟩
  else
    .ok ⟨assignment.team, assignment.player, row.points, row.points, row.playedGames, toPlay,
      remainingHeadToHead, none⟩

end Projection

end LeagueWager
