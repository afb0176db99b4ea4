import LeagueWager.Settlement

/-!
# Figures in exact numbers

Every figure of a projection and of a settlement is a checked sum or product. Where it has a value
at all, that value is the one that the same formula has among the whole numbers. The lemmas here
say so once for each function; what is proved of a settlement cites them and never opens the
functions again.

* `Projection.exact_of_build`: what a projection holds;
* `Settlement.toInt_bestCase`, `Settlement.toInt_worstCase`: what the best and the worst end of the
  season are worth.
-/

namespace LeagueWager

open Checked

/-- The points of a fixture that a projection backs out: those of a live match as it stands. -/
def Projection.provisional (team : String) (latest : Fixture) : Int :=
  if latest.status.isLive then (latest.pointsFor team).toInt else 0

/-- What a projection holds, in exact numbers. -/
structure Projection.Exact (rules : Rules) (assignment : Assignment) (row : Standing)
    (headToHead : List Fixture) (latest : Fixture) (p : Projection) : Prop where
  teamName : p.teamName = assignment.team
  playerName : p.playerName = assignment.player
  currentPoints : p.currentPoints = row.points
  matchesPlayed : p.matchesPlayed = row.playedGames
  /-- A live match is taken out of the points. -/
  adjustedPoints :
    p.adjustedPoints.toInt = row.points.toInt - Projection.provisional assignment.team latest
  /-- A live match is one more to be played, and no team has fewer than none. -/
  remainingMatches :
    p.remainingMatches.toInt = max (rules.seasonLength.toInt - row.playedGames.toInt) 0
      + if latest.status.isLive then 1 else 0
  remainingHeadToHead : p.remainingHeadToHead = Int32.ofNat (Projection.unfinished headToHead)
  liveMatch :
    p.liveMatch = if latest.status.isLive then some (Projection.liveView latest) else none

/-- **A projection that is built holds what its parts say.** -/
theorem Projection.exact_of_build {rules : Rules} {assignment : Assignment} {row : Standing}
    {headToHead : List Fixture} {latest : Fixture} {p : Projection}
    (h : build rules assignment row headToHead latest = .ok p) :
    Exact rules assignment row headToHead latest p := by
  unfold build at h
  obtain ⟨toPlay, hplay, h⟩ := bind_eq_ok_iff.mp h
  have hplay := sub_eq_ok_iff.mp hplay
  have hmax : (max toPlay 0).toInt = max (rules.seasonLength.toInt - row.playedGames.toInt) 0 := by
    rw [toInt_max, hplay, Int32.toInt_zero]
  dsimp only at h
  split at h
  · rename_i hlive
    obtain ⟨adjusted, hadjusted, h⟩ := bind_eq_ok_iff.mp h
    obtain ⟨remaining, hremaining, h⟩ := bind_eq_ok_iff.mp h
    have hadjusted := sub_eq_ok_iff.mp hadjusted
    have hremaining := add_eq_ok_iff.mp hremaining
    rw [hmax] at hremaining
    cases h
    exact ⟨rfl, rfl, rfl, rfl, by rw [provisional, if_pos hlive, hadjusted],
      by rw [if_pos hlive, hremaining]; rfl, rfl, by rw [if_pos hlive]⟩
  · rename_i hlive
    cases h
    exact ⟨rfl, rfl, rfl, rfl, by rw [provisional, if_neg hlive, Int.sub_zero],
      by rw [if_neg hlive, hmax, Int.add_zero], rfl, by rw [if_neg hlive]⟩

namespace Settlement

variable {rules : Rules} {own opponent a b : Projection}

theorem toInt_bestAgainst {lead : Int32} (h : bestAgainst own opponent = .ok lead) :
    lead.toInt = (own.adjustedPoints.toInt + own.remainingMatches.toInt * 3)
      - (opponent.adjustedPoints.toInt + own.remainingHeadToHead.toInt) := by
  unfold bestAgainst at h
  obtain ⟨wins, hwins, h⟩ := bind_eq_ok_iff.mp h
  obtain ⟨most, hmost, h⟩ := bind_eq_ok_iff.mp h
  obtain ⟨draws, hdraws, h⟩ := bind_eq_ok_iff.mp h
  obtain ⟨least, hleast, h⟩ := bind_eq_ok_iff.mp h
  have hwins : wins.toInt = own.remainingMatches.toInt * 3 := mul_eq_ok_iff.mp hwins
  have hdraws : draws.toInt = own.remainingHeadToHead.toInt * 1 := mul_eq_ok_iff.mp hdraws
  rw [sub_eq_ok_iff.mp h, add_eq_ok_iff.mp hmost, add_eq_ok_iff.mp hleast, hwins, hdraws,
    Int.mul_one]

theorem toInt_worstAgainst {lead : Int32} (h : worstAgainst own opponent = .ok lead) :
    lead.toInt = own.adjustedPoints.toInt - (opponent.adjustedPoints.toInt
      + (opponent.remainingMatches.toInt - own.remainingHeadToHead.toInt) * 3) := by
  unfold worstAgainst at h
  obtain ⟨others, hothers, h⟩ := bind_eq_ok_iff.mp h
  obtain ⟨wins, hwins, h⟩ := bind_eq_ok_iff.mp h
  obtain ⟨most, hmost, h⟩ := bind_eq_ok_iff.mp h
  have hwins : wins.toInt = others.toInt * 3 := mul_eq_ok_iff.mp hwins
  rw [sub_eq_ok_iff.mp h, add_eq_ok_iff.mp hmost, hwins, sub_eq_ok_iff.mp hothers]

/-- What the best end of the season is worth: `own` wins whatever is left to it, and each match
between the rivals gives either of them a point. -/
theorem toInt_bestCase {best : Int32} (h : bestCase rules own a b = .ok best) :
    best.toInt = (2 * own.adjustedPoints.toInt - a.adjustedPoints.toInt - b.adjustedPoints.toInt
      + 6 * own.remainingMatches.toInt - 2 * own.remainingHeadToHead.toInt)
        * rules.stakePerPoint.toInt := by
  unfold bestCase at h
  obtain ⟨overA, ha, h⟩ := bind_eq_ok_iff.mp h
  obtain ⟨overB, hb, h⟩ := bind_eq_ok_iff.mp h
  obtain ⟨both, hboth, h⟩ := bind_eq_ok_iff.mp h
  rw [mul_eq_ok_iff.mp h, add_eq_ok_iff.mp hboth, toInt_bestAgainst ha, toInt_bestAgainst hb]
  congr 1
  omega

/-- What the worst end of the season is worth: the rivals win whatever is left to them, those
matches apart in which they meet; each of those gives three points to one of them. -/
theorem toInt_worstCase {worst : Int32} (h : worstCase rules own a b = .ok worst) :
    worst.toInt = (2 * own.adjustedPoints.toInt - a.adjustedPoints.toInt - b.adjustedPoints.toInt
      + 3 * own.remainingHeadToHead.toInt - 3 * a.remainingMatches.toInt
      - 3 * b.remainingMatches.toInt) * rules.stakePerPoint.toInt := by
  unfold worstCase at h
  obtain ⟨overA, ha, h⟩ := bind_eq_ok_iff.mp h
  obtain ⟨overB, hb, h⟩ := bind_eq_ok_iff.mp h
  obtain ⟨both, hboth, h⟩ := bind_eq_ok_iff.mp h
  obtain ⟨between, hbetween, h⟩ := bind_eq_ok_iff.mp h
  obtain ⟨total, htotal, h⟩ := bind_eq_ok_iff.mp h
  have hbetween : between.toInt = own.remainingHeadToHead.toInt * 3 := mul_eq_ok_iff.mp hbetween
  rw [mul_eq_ok_iff.mp h, sub_eq_ok_iff.mp htotal, add_eq_ok_iff.mp hboth,
    toInt_worstAgainst ha, toInt_worstAgainst hb, hbetween]
  congr 1
  omega

end Settlement

end LeagueWager
