import LeagueWager.Date.Instant
import LeagueWager.Team

/-!
# Fixtures

A fixture is one match of two teams: when it kicks off, how it stands, and its goals.

* `Fixture.isBetween_comm`: the order of the two names does not matter;
* `Fixture.pointsFor_mem`: a side takes three, one or no points.
-/

namespace LeagueWager

/-- How a fixture stands. -/
inductive FixtureStatus where
  | scheduled
  | timed
  | inPlay
  | paused
  | finished
  | suspended
  | postponed
  | cancelled
  | awarded
  deriving DecidableEq, Repr

namespace FixtureStatus

/-- The code of a status in the league's data. -/
def code : FixtureStatus → String
  | .scheduled => "SCHEDULED"
  | .timed => "TIMED"
  | .inPlay => "IN_PLAY"
  | .paused => "PAUSED"
  | .finished => "FINISHED"
  | .suspended => "SUSPENDED"
  | .postponed => "POSTPONED"
  | .cancelled => "CANCELLED"
  | .awarded => "AWARDED"

/-- Every status. -/
def all : List FixtureStatus :=
  [scheduled, timed, inPlay, paused, finished, suspended, postponed, cancelled, awarded]

/-- The fixture has been played to its end. -/
def hasFinished (status : FixtureStatus) : Bool := status == finished

/-- The fixture is being played, or paused at half time. -/
def isLive : FixtureStatus → Bool
  | inPlay => true
  | paused => true
  | _ => false

end FixtureStatus

/-- Goals of each side; none before kick-off. -/
structure Goals where
  home : Option UInt32
  away : Option UInt32
  deriving DecidableEq, Repr

/-- No goals known. -/
def Goals.unknown : Goals := ⟨none, none⟩

/-- The goals of a fixture. -/
structure Score where
  /-- The running score of a live fixture, the final score of a finished one. -/
  fullTime : Goals
  halfTime : Goals
  deriving DecidableEq, Repr

/-- No score known. -/
def Score.unknown : Score := ⟨.unknown, .unknown⟩

/-- One match between two teams. -/
structure Fixture where
  id : UInt64
  kickOff : Instant
  status : FixtureStatus
  matchday : Option UInt32
  homeTeam : Team
  awayTeam : Team
  score : Score
  deriving DecidableEq, Repr

namespace Fixture

/-- The home side's goals, none counting as zero. -/
def homeGoals (fixture : Fixture) : UInt32 := fixture.score.fullTime.home.getD 0

/-- The away side's goals, none counting as zero. -/
def awayGoals (fixture : Fixture) : UInt32 := fixture.score.fullTime.away.getD 0

/-- One of the two sides answers to the name. -/
def involves (fixture : Fixture) (name : String) : Bool :=
  fixture.homeTeam.answersTo name || fixture.awayTeam.answersTo name

/-- One side answers to one of the names and the other side to the other. -/
def isBetween (fixture : Fixture) (a b : String) : Bool :=
  (fixture.homeTeam.answersTo a && fixture.awayTeam.answersTo b)
    || (fixture.homeTeam.answersTo b && fixture.awayTeam.answersTo a)

/-- Points for `own` goals against `other`: three when ahead, one when level, none when behind. -/
def pointsOf (own other : UInt32) : Int32 :=
  if other < own then 3 else if own = other then 1 else 0

/-- The league points that the named team would take from the full-time score; none if it does not
play. The home side is looked at first. -/
def pointsFor (fixture : Fixture) (name : String) : Int32 :=
  if fixture.homeTeam.answersTo name then pointsOf fixture.homeGoals fixture.awayGoals
  else if fixture.awayTeam.answersTo name then pointsOf fixture.awayGoals fixture.homeGoals
  else 0

/-- The fixture on one line. -/
def line (fixture : Fixture) : String :=
  s!"{fixture.homeTeam.displayName} {fixture.homeGoals} - {fixture.awayGoals} "
    ++ s!"{fixture.awayTeam.displayName} ({fixture.status.code})"

theorem isBetween_comm (fixture : Fixture) (a b : String) :
    fixture.isBetween a b = fixture.isBetween b a := by
  simp only [isBetween, Bool.or_comm]

theorem pointsOf_mem (own other : UInt32) :
    pointsOf own other = 0 ∨ pointsOf own other = 1 ∨ pointsOf own other = 3 := by
  unfold pointsOf
  split
  · simp
  · split <;> simp

theorem pointsFor_mem (fixture : Fixture) (name : String) :
    fixture.pointsFor name = 0 ∨ fixture.pointsFor name = 1 ∨ fixture.pointsFor name = 3 := by
  unfold pointsFor
  split
  · exact pointsOf_mem _ _
  · split
    · exact pointsOf_mem _ _
    · exact Or.inl rfl

end Fixture

end LeagueWager
