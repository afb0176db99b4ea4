import LeagueWager.Projection
import LeagueWager.Text.LowerCase

/-!
# Settlement

Each party has a row: what it owes to or is owed by the other two, the balance of both, and the
best and the worst that the rest of the season can make of it. Rows are ranked by points.

All figures are checked sums and products; the first that does not fit ends the settlement.

* `ranked_perm`, `ranked_sorted`: the ranking keeps the rows and puts more points first.
-/

namespace LeagueWager

/-- One party's row. -/
structure SettlementRow where
  /-- The team's name in lower case. -/
  teamName : String
  playerName : String
  played : Int32
  points : Int32
  oweA : String
  amountA : Int32
  oweB : String
  amountB : Int32
  bestCase : Int32
  worstCase : Int32
  balance : String
  balanceAmount : Int32
  live : Bool
  homeTeam : Option String
  awayTeam : Option String
  homeTeamScore : Option UInt32
  awayTeamScore : Option UInt32
  deriving DecidableEq, Repr

namespace Settlement

open Checked

/-- Points for a win. -/
def winPoints : Int32 := 3

/-- Points that one of two rivals takes at least from a match between them. -/
def headToHeadFloor : Int32 := 1

/-- Which way and how much money moves between `own` and `other`. -/
def owed (rules : Rules) (own other : Projection) : Except Overflow (Direction × Int32) := do
  let gap ← sub own.currentPoints other.currentPoints
  let amount ← mul gap rules.stakePerPoint
  .ok (.between own.currentPoints other.currentPoints, amount)

/-- What `own` gains from both others together. -/
def netBalance (rules : Rules) (own a b : Projection) : Except Overflow Int32 := do
  let gap ← sub own.currentPoints a.currentPoints
  let gap ← add gap own.currentPoints
  let gap ← sub gap b.currentPoints
  mul gap rules.stakePerPoint

/-- The lead over one opponent if `own` wins all it has left and the rivals draw among themselves
while losing the rest. -/
def bestAgainst (own opponent : Projection) : Except Overflow Int32 := do
  let wins ← mul own.remainingMatches winPoints
  let most ← add own.adjustedPoints wins
  let draws ← mul own.remainingHeadToHead headToHeadFloor
  let least ← add opponent.adjustedPoints draws
  sub most least

/-- What the best end of the season is worth to `own`. -/
def bestCase (rules : Rules) (own a b : Projection) : Except Overflow Int32 := do
  let overA ← bestAgainst own a
  let overB ← bestAgainst own b
  mul (← add overA overB) rules.stakePerPoint

/-- The lead over one opponent if `own` wins nothing more and the opponent wins all its matches
except those against the other rival. -/
def worstAgainst (own opponent : Projection) : Except Overflow Int32 := do
  let others ← sub opponent.remainingMatches own.remainingHeadToHead
  let wins ← mul others winPoints
  let most ← add opponent.adjustedPoints wins
  sub own.adjustedPoints most

/-- What the worst end of the season is worth to `own`: each match between the rivals has a winner
as well. -/
def worstCase (rules : Rules) (own a b : Projection) : Except Overflow Int32 := do
  let overA ← worstAgainst own a
  let overB ← worstAgainst own b
  let both ← add overA overB
  let between ← mul own.remainingHeadToHead winPoints
  mul (← sub both between) rules.stakePerPoint

/-- The row of `own` against `a` and `b`. -/
def row (rules : Rules) (own a b : Projection) : Except Overflow SettlementRow := do
  let (directionA, amountA) ← owed rules own a
  let (directionB, amountB) ← owed rules own b
  let best ← bestCase rules own a b
  let worst ← worstCase rules own a b
  let net ← netBalance rules own a b
  .ok {
    teamName := Text.lower own.teamName
    playerName := own.playerName
    played := own.matchesPlayed
    points := own.currentPoints
    oweA := directionA.label a.playerName
    amountA
    oweB := directionB.label b.playerName
    amountB
    bestCase := best
    worstCase := worst
    balance := own.playerName ++ "'s Balance"
    balanceAmount := net
    live := own.isLive
    homeTeam := own.liveMatch.map (·.homeTeam)
    awayTeam := own.liveMatch.map (·.awayTeam)
    homeTeamScore := own.liveMatch.map (·.homeScore)
    awayTeamScore := own.liveMatch.map (·.awayScore) }

/-- `x` may stand in front of `y`: it has no fewer points. -/
def ranksBefore (x y : SettlementRow) : Bool := y.points ≤ x.points

/-- Rows by points, more first; rows of equal points keep their order. -/
def ranked (rows : List SettlementRow) : List SettlementRow := rows.mergeSort ranksBefore

/-- The ranked rows of three parties, each against the other two in their order. -/
def all (rules : Rules) (parties : Trio Projection) : Except Overflow (List SettlementRow) := do
  let first ← row rules parties.first parties.second parties.third
  let second ← row rules parties.second parties.first parties.third
  let third ← row rules parties.third parties.first parties.second
  .ok (ranked [first, second, third])

theorem ranksBefore_trans (x y z : SettlementRow) :
    ranksBefore x y = true → ranksBefore y z = true → ranksBefore x z = true := by
  simp only [ranksBefore, decide_eq_true_eq]
  exact fun hxy hyz => Int32.le_trans hyz hxy

theorem ranksBefore_total (x y : SettlementRow) :
    (ranksBefore x y || ranksBefore y x) = true := by
  simp only [ranksBefore, Bool.or_eq_true, decide_eq_true_eq]
  exact Int32.le_total y.points x.points

theorem ranked_perm (rows : List SettlementRow) : (ranked rows).Perm rows :=
  List.mergeSort_perm rows ranksBefore

theorem ranked_sorted (rows : List SettlementRow) :
    (ranked rows).Pairwise fun x y => y.points ≤ x.points :=
  (List.pairwise_mergeSort ranksBefore_trans ranksBefore_total rows).imp fun hxy => by
    simpa [ranksBefore] using hxy

end Settlement

end LeagueWager
