import LeagueWager.Proofs.Bounds

/-!
# What a projection holds, whatever the data

A projection is built from a row of the table, the fixtures between the rivals, and the latest
fixture of the team, whatever they say. It can only fail at a live match: one match more than the
largest number of 32 bits, or points that are already the lowest. Else it holds what the settlement
counts on: no negative number of matches, points from which no more is taken than the live match is
worth as it stands, and the number of fixtures between the rivals that are not finished.

* `Fixture.SideScore`, `pointsFor_of_sideScore`: a live match seen from the team's own side;
* `build_eq_error_iff`: when a projection cannot be built;
* `sound_of_build`: what it holds if it can;
* `projected_of_any_data`: both.
-/

namespace LeagueWager

open Checked

/-! ## The team's own side -/

namespace Fixture

variable {fixture : Fixture} {name : String} {own other : UInt32}

/-- The score from the side of the named team: its own goals, and those of the other side. It is the
home side if that answers to the name. -/
inductive SideScore (fixture : Fixture) (name : String) : UInt32 → UInt32 → Prop where
  | home (own : fixture.homeTeam.answersTo name = true) :
    SideScore fixture name fixture.homeGoals fixture.awayGoals
  | away (other : fixture.homeTeam.answersTo name = false)
      (own : fixture.awayTeam.answersTo name = true) :
    SideScore fixture name fixture.awayGoals fixture.homeGoals

theorem exists_sideScore (h : fixture.involves name = true) :
    ∃ own other, SideScore fixture name own other := by
  unfold involves at h
  rw [Bool.or_eq_true] at h
  cases home : fixture.homeTeam.answersTo name with
  | true => exact ⟨_, _, .home home⟩
  | false =>
    rcases h with contra | away
    · rw [home] at contra
      cases contra
    · exact ⟨_, _, .away home away⟩

theorem pointsFor_of_sideScore (h : SideScore fixture name own other) :
    fixture.pointsFor name = pointsOf own other := by
  unfold pointsFor
  cases h with
  | home own => rw [if_pos own]
  | away other own => rw [other, if_neg (by decide), if_pos own]

/-- Nothing for the side that is behind, one point for a level score, three for the lead. -/
theorem pointsOf_cases (own other : UInt32) :
    own < other ∧ (pointsOf own other).toInt = 0 ∨ own = other ∧ (pointsOf own other).toInt = 1 ∨
      other < own ∧ (pointsOf own other).toInt = 3 := by
  unfold pointsOf
  by_cases level : own = other
  · subst level
    refine .inr (.inl ⟨rfl, ?_⟩)
    rw [if_neg (UInt32.lt_irrefl own), if_pos rfl]
    rfl
  rcases UInt32.lt_or_lt_of_ne level with behind | ahead
  · refine .inl ⟨behind, ?_⟩
    rw [if_neg (UInt32.lt_asymm behind), if_neg level]
    rfl
  · refine .inr (.inr ⟨ahead, ?_⟩)
    rw [if_pos ahead]
    rfl

end Fixture

theorem FixtureStatus.isLive_iff {status : FixtureStatus} :
    status.isLive = true ↔ status = .inPlay ∨ status = .paused := by
  cases status <;> decide

namespace Projection

variable {rules : Rules} {assignment : Assignment} {row : Standing}
variable {headToHead : List Fixture} {latest : Fixture} {p : Projection}

/-! ## What cannot be built -/

/-- **A projection fails only at a live match.** -/
theorem build_eq_error_iff (season : 0 < rules.seasonLength.toInt)
    (played : 0 ≤ row.playedGames.toInt) :
    (∃ cause, build rules assignment row headToHead latest = .error cause) ↔
      latest.status.isLive = true ∧
        (rules.seasonLength.toInt - row.playedGames.toInt = 2147483647 ∨
          row.points.toInt - (latest.pointsFor assignment.team).toInt < -2147483648) := by
  have length := inRange_toInt rules.seasonLength
  have games := inRange_toInt row.playedGames
  have points := inRange_toInt row.points
  have worth := latest.pointsFor_bounds assignment.team
  unfold InRange at length games points
  constructor
  · rintro ⟨cause, failed⟩
    -- where all sums fit, a projection is built
    by_contra fine
    obtain ⟨p, built⟩ : ∃ p, build rules assignment row headToHead latest = .ok p := by
      refine exists_build ⟨by omega, by omega⟩ ?_
      intro live
      rw [not_and, not_or] at fine
      obtain ⟨fewer, enough⟩ := fine live
      exact ⟨⟨by omega, by omega⟩, ⟨by omega, by omega⟩⟩
    rw [failed] at built
    cases built
  · rintro ⟨live, tooMuch⟩
    cases built : build rules assignment row headToHead latest with
    | error cause => exact ⟨cause, rfl⟩
    | ok p =>
      obtain ⟨_, _, _, _, adjusted, remaining, _, _⟩ := exact_of_build built
      have adjustedFits := inRange_toInt p.adjustedPoints
      have remainingFits := inRange_toInt p.remainingMatches
      unfold provisional at adjusted
      rw [if_pos live] at adjusted remaining
      unfold InRange at adjustedFits remainingFits
      omega

/-! ## What is built -/

/-- What the settlement counts on in the projection of a team. -/
structure Sound (rules : Rules) (team : String) (row : Standing) (headToHead : List Fixture)
    (latest : Fixture) (p : Projection) : Prop where
  current : p.currentPoints = row.points
  /-- A live match is one more to be played. -/
  remaining : p.remainingMatches.toInt = max (rules.seasonLength.toInt - row.playedGames.toInt) 0
    + if latest.status = .inPlay ∨ latest.status = .paused then 1 else 0
  notNegative : 0 ≤ p.remainingMatches.toInt
  adjusted : p.currentPoints.toInt - 3 ≤ p.adjustedPoints.toInt ∧
    p.adjustedPoints.toInt ≤ p.currentPoints.toInt
  /-- What is taken out is what the live match is worth to the team's own side as it stands. -/
  live : latest.status = .inPlay ∨ latest.status = .paused →
    ∃ own other, latest.SideScore team own other ∧
      (own < other ∧ p.currentPoints.toInt - p.adjustedPoints.toInt = 0 ∨
        own = other ∧ p.currentPoints.toInt - p.adjustedPoints.toInt = 1 ∨
        other < own ∧ p.currentPoints.toInt - p.adjustedPoints.toInt = 3)
  idle : ¬ (latest.status = .inPlay ∨ latest.status = .paused) → p.adjustedPoints = p.currentPoints
  shown : p.liveMatch.isSome = true ↔ latest.status = .inPlay ∨ latest.status = .paused
  between : p.remainingHeadToHead.toInt = headToHead.countP fun f => f.status ≠ .finished

theorem unfinished_eq_countP (fixtures : List Fixture) :
    unfinished fixtures = fixtures.countP fun f => f.status ≠ .finished := by
  unfold unfinished
  refine List.countP_congr ?_
  intro f _
  cases f.status <;> decide

/-- **What is built is sound.** -/
theorem sound_of_build (few : headToHead.length < 2147483648)
    (plays : latest.involves assignment.team = true)
    (built : build rules assignment row headToHead latest = .ok p) :
    p.Sound rules assignment.team row headToHead latest := by
  obtain ⟨_, _, current, _, adjusted, remaining, between, shown⟩ := exact_of_build built
  have backedOut := provisional_bounds assignment.team latest
  rw [← current] at adjusted
  simp only [FixtureStatus.isLive_iff] at remaining shown
  refine ⟨current, remaining, ?_, by omega, ?_, ?_, ?_, ?_⟩
  · rw [remaining]
    split <;> omega
  · intro live
    obtain ⟨own, other, side⟩ := Fixture.exists_sideScore plays
    refine ⟨own, other, side, ?_⟩
    have difference : p.currentPoints.toInt - p.adjustedPoints.toInt
        = (Fixture.pointsOf own other).toInt := by
      rw [adjusted, provisional, if_pos (FixtureStatus.isLive_iff.mpr live),
        Fixture.pointsFor_of_sideScore side]
      omega
    rw [difference]
    exact Fixture.pointsOf_cases own other
  · intro idle
    rw [provisional, if_neg (mt FixtureStatus.isLive_iff.mp idle), Int.sub_zero] at adjusted
    exact Int32.toInt_inj.mp adjusted
  · rw [shown]
    split
    · rename_i live
      exact iff_of_true rfl live
    · rename_i idle
      exact iff_of_false (by decide) idle
  · have most : unfinished headToHead ≤ headToHead.length := List.countP_le_length
    rw [between, Int32.toInt_ofNat_of_lt (by omega), unfinished_eq_countP]

/-- **Projections of any data**: of a season of any positive length, a row of the table with no
negative number of games, any fixtures between the rivals that 32 bits can count, and a latest
fixture of the team. A projection is not built exactly if the latest fixture is live and either all
matches that 32 bits can count are still to be played, or the points without it do not fit; if it is
built, it is sound. -/
theorem projected_of_any_data (rules : Rules) (assignment : Assignment) (row : Standing)
    (headToHead : List Fixture) (latest : Fixture) (season : 0 < rules.seasonLength.toInt)
    (played : 0 ≤ row.playedGames.toInt) (few : headToHead.length < 2147483648)
    (plays : latest.involves assignment.team = true) :
    ((∃ cause, build rules assignment row headToHead latest = .error cause) ↔
      (latest.status = .inPlay ∨ latest.status = .paused) ∧
        (rules.seasonLength.toInt - row.playedGames.toInt = 2147483647 ∨
          row.points.toInt - (latest.pointsFor assignment.team).toInt < -2147483648)) ∧
    ∀ p, build rules assignment row headToHead latest = .ok p →
      p.Sound rules assignment.team row headToHead latest := by
  constructor
  · rw [build_eq_error_iff season played, FixtureStatus.isLive_iff]
  · intro p built
    exact sound_of_build few plays built

/-- An away team without a goal, under its other name, while the home side's goals are not known. -/
def goalless : Fixture :=
  { Fixture.onDay 3 "Everton" "Wolverhampton" .paused with score := ⟨⟨none, some 0⟩, .unknown⟩ }

/-- At the longest season a live match fits after one game, and none before. -/
theorem projected_of_goalless :
    (0 : Int) < (⟨2147483647, 5⟩ : Rules).seasonLength.toInt ∧
      (0 : Int) ≤ (Standing.ofGames "Wolves" 1 7).playedGames.toInt ∧
      [goalless].length < 2147483648 ∧ goalless.involves "Wolves" = true ∧
      (∃ cause, build ⟨2147483647, 5⟩ ⟨"Wolves", "Tim", "Chelsea", "Everton"⟩
        (.ofGames "Wolves" 0 7) [goalless] goalless = .error cause) ∧
      ∃ p, build ⟨2147483647, 5⟩ ⟨"Wolves", "Tim", "Chelsea", "Everton"⟩
          (.ofGames "Wolves" 1 7) [goalless] goalless = .ok p ∧
        p.Sound ⟨2147483647, 5⟩ "Wolves" (.ofGames "Wolves" 1 7) [goalless] goalless := by
  have season : (0 : Int) < (⟨2147483647, 5⟩ : Rules).seasonLength.toInt := by decide
  have played : (0 : Int) ≤ (Standing.ofGames "Wolves" 1 7).playedGames.toInt := by decide
  have few : [goalless].length < 2147483648 := by decide
  have plays : goalless.involves "Wolves" = true := by decide
  obtain ⟨fails, _⟩ := projected_of_any_data ⟨2147483647, 5⟩
    ⟨"Wolves", "Tim", "Chelsea", "Everton"⟩ (.ofGames "Wolves" 0 7) [goalless] goalless season
    (by decide) few plays
  obtain ⟨_, sound⟩ := projected_of_any_data ⟨2147483647, 5⟩
    ⟨"Wolves", "Tim", "Chelsea", "Everton"⟩ (.ofGames "Wolves" 1 7) [goalless] goalless season
    played few plays
  exact ⟨season, played, few, plays, fails.mpr ⟨.inr rfl, .inl (by decide)⟩, _, rfl, sound _ rfl⟩

end Projection

end LeagueWager
