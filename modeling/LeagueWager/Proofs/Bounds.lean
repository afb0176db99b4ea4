import LeagueWager.Proofs.Rows
import LeagueWager.Proofs.Figures

/-!
# Ordinary leagues fit

Every sum and product of a settlement is checked, so a settlement may end without any rows. In an
ordinary league it does not: no sum on the way exceeds twenty-one points for each fixture of a
season, a live match included, and if that many points are worth less than what 32 bits hold, every
sum fits, and so does what it is worth. The rows are then those of whole numbers without bounds.

* `Checked.Returns`: a computation returns, and what;
* `Projection.exists_build`: the three sums that a projection is built from;
* `Projection.Within`: how large the parts of a projection are;
* `Settlement.returns_bestCase`, `Settlement.returns_worstCase`: no sum on the way is too large;
* `Settlement.settles_in_whole_numbers`: all of it together.
-/

namespace LeagueWager

/-! ## Computations that return -/

namespace Checked

/-- The computation returns, and what it returns is the number `n`. -/
def Returns (x : Except Overflow Int32) (n : Int) : Prop := ∃ c, x = .ok c ∧ c.toInt = n

variable {a b : Int32} {n k : Int}

theorem Returns.bind {x : Except Overflow Int32} {f : Int32 → Except Overflow Int32}
    (h : Returns x n) (next : ∀ c, c.toInt = n → Returns (f c) k) : Returns (x >>= f) k := by
  obtain ⟨c, rfl, hc⟩ := h
  exact next c hc

theorem returns_fit {cause : Overflow} (h : InRange n) : Returns (fit cause n) n :=
  ⟨Int32.ofInt n, if_pos h, toInt_ofInt h⟩

theorem returns_add (h : InRange (a.toInt + b.toInt)) : Returns (add a b) (a.toInt + b.toInt) :=
  returns_fit h

theorem returns_sub (h : InRange (a.toInt - b.toInt)) : Returns (sub a b) (a.toInt - b.toInt) :=
  returns_fit h

theorem returns_mul (h : InRange (a.toInt * b.toInt)) : Returns (mul a b) (a.toInt * b.toInt) :=
  returns_fit h

end Checked

open Checked

/-- A projection is built as soon as its sums fit: what is left to play, and for a live match the
points without it and the fixtures with it. -/
theorem Projection.exists_build {rules : Rules} {assignment : Assignment} {row : Standing}
    {headToHead : List Fixture} {latest : Fixture}
    (toPlay : InRange (rules.seasonLength.toInt - row.playedGames.toInt))
    (live : latest.status.isLive = true →
      InRange (row.points.toInt - (latest.pointsFor assignment.team).toInt) ∧
        InRange (max (rules.seasonLength.toInt - row.playedGames.toInt) 0 + 1)) :
    ∃ p, build rules assignment row headToHead latest = .ok p := by
  obtain ⟨left, hleft, hn⟩ := returns_sub toPlay
  have hmax : (max left 0).toInt = max (rules.seasonLength.toInt - row.playedGames.toInt) 0 := by
    rw [toInt_max, hn, Int32.toInt_zero]
  unfold build
  rw [hleft]
  by_cases isLive : latest.status.isLive = true
  · obtain ⟨fitsPoints, fitsLeft⟩ := live isLive
    obtain ⟨adjusted, hadjusted, _⟩ := returns_sub fitsPoints
    have sum : InRange ((max left 0).toInt + (1 : Int32).toInt) := by
      rw [hmax]
      exact fitsLeft
    obtain ⟨remaining, hremaining, _⟩ := returns_add sum
    refine ⟨⟨assignment.team, assignment.player, row.points, adjusted, row.playedGames, remaining,
      Int32.ofNat (unfinished headToHead), some (liveView latest)⟩, ?_⟩
    simp only [bind, Except.bind, if_pos isLive, hadjusted, hremaining]
  · refine ⟨⟨assignment.team, assignment.player, row.points, row.points, row.playedGames,
      max left 0, Int32.ofNat (unfinished headToHead), none⟩, ?_⟩
    simp only [bind, Except.bind, if_neg isLive]

/-! ## Whole numbers without bounds -/

/-- What a projection knows, in whole numbers. -/
structure Tally where
  currentPoints : Int
  adjustedPoints : Int
  matchesPlayed : Int
  remainingMatches : Int
  remainingHeadToHead : Int
  deriving DecidableEq, Repr

/-- The figures of a row, in whole numbers. -/
structure WholeFigures where
  played : Int
  points : Int
  amountA : Int
  amountB : Int
  bestCase : Int
  worstCase : Int
  balanceAmount : Int
  deriving DecidableEq, Repr

namespace Tally

/-- The formula of a projection. -/
def build (rules : Rules) (team : String) (row : Standing) (headToHead : List Fixture)
    (latest : Fixture) : Tally :=
  let toPlay := max (rules.seasonLength.toInt - row.playedGames.toInt) 0
  if latest.status.isLive then
    ⟨row.points.toInt, row.points.toInt - (latest.pointsFor team).toInt, row.playedGames.toInt,
      toPlay + 1, Projection.unfinished headToHead⟩
  else
    ⟨row.points.toInt, row.points.toInt, row.playedGames.toInt, toPlay,
      Projection.unfinished headToHead⟩

/-- The formula of an amount. -/
def owed (stake : Int) (own other : Tally) : Int :=
  (own.currentPoints - other.currentPoints) * stake

/-- The formula of a balance. -/
def netBalance (stake : Int) (own a b : Tally) : Int :=
  (own.currentPoints - a.currentPoints + own.currentPoints - b.currentPoints) * stake

/-- The formula of the lead over one opponent at best. -/
def bestAgainst (own opponent : Tally) : Int :=
  (own.adjustedPoints + own.remainingMatches * 3)
    - (opponent.adjustedPoints + own.remainingHeadToHead * 1)

/-- The formula of the best case. -/
def bestCase (stake : Int) (own a b : Tally) : Int :=
  (bestAgainst own a + bestAgainst own b) * stake

/-- The formula of the lead over one opponent at worst. -/
def worstAgainst (own opponent : Tally) : Int :=
  own.adjustedPoints
    - (opponent.adjustedPoints + (opponent.remainingMatches - own.remainingHeadToHead) * 3)

/-- The formula of the worst case. -/
def worstCase (stake : Int) (own a b : Tally) : Int :=
  (worstAgainst own a + worstAgainst own b - own.remainingHeadToHead * 3) * stake

/-- The figures of the row of `own` against `a` and `b`. -/
def figures (stake : Int) (own a b : Tally) : WholeFigures where
  played := own.matchesPlayed
  points := own.currentPoints
  amountA := owed stake own a
  amountB := owed stake own b
  bestCase := bestCase stake own a b
  worstCase := worstCase stake own a b
  balanceAmount := netBalance stake own a b

end Tally

/-- What a projection holds, read as whole numbers. -/
def Projection.tally (p : Projection) : Tally :=
  ⟨p.currentPoints.toInt, p.adjustedPoints.toInt, p.matchesPlayed.toInt, p.remainingMatches.toInt,
    p.remainingHeadToHead.toInt⟩

/-- The figures of a row, read as whole numbers. -/
def SettlementRow.figures (row : SettlementRow) : WholeFigures :=
  ⟨row.played.toInt, row.points.toInt, row.amountA.toInt, row.amountB.toInt, row.bestCase.toInt,
    row.worstCase.toInt, row.balanceAmount.toInt⟩

/-! ## Ordinary leagues -/

/-- The rules of a league in which twenty-one points for each fixture of a season, and for one more,
are worth no more than 32 bits hold. -/
structure Rules.Ordinary (rules : Rules) : Prop where
  season : 1 ≤ rules.seasonLength.toInt
  stake : 1 ≤ rules.stakePerPoint.toInt
  worth : 21 * (rules.seasonLength.toInt + 1) * rules.stakePerPoint.toInt ≤ 2147483647

/-- A row of the table with no more points than a season has, taken away or won. -/
structure Standing.Ordinary (rules : Rules) (row : Standing) : Prop where
  points : -(3 * rules.seasonLength.toInt) ≤ row.points.toInt ∧
    row.points.toInt ≤ 3 * rules.seasonLength.toInt
  played : 0 ≤ row.playedGames.toInt

/-- How large the parts of a projection are. -/
structure Projection.Within (rules : Rules) (p : Projection) : Prop where
  current : -(3 * (rules.seasonLength.toInt + 1)) ≤ p.currentPoints.toInt ∧
    p.currentPoints.toInt ≤ 3 * (rules.seasonLength.toInt + 1)
  adjusted : -(3 * (rules.seasonLength.toInt + 1)) ≤ p.adjustedPoints.toInt ∧
    p.adjustedPoints.toInt ≤ 3 * (rules.seasonLength.toInt + 1)
  remaining : 0 ≤ p.remainingMatches.toInt ∧
    p.remainingMatches.toInt ≤ rules.seasonLength.toInt + 1
  headToHead : 0 ≤ p.remainingHeadToHead.toInt ∧
    p.remainingHeadToHead.toInt ≤ rules.seasonLength.toInt + 1

namespace Rules.Ordinary

variable {rules : Rules} (ordinary : rules.Ordinary) {n : Int}

include ordinary

/-- Twenty-one points for each fixture are enough for what a sum on the way is worth. -/
theorem inRange_mul (h : -(21 * (rules.seasonLength.toInt + 1)) ≤ n ∧
    n ≤ 21 * (rules.seasonLength.toInt + 1)) : InRange (n * rules.stakePerPoint.toInt) := by
  obtain ⟨_, stake, worth⟩ := ordinary
  have nonneg : 0 ≤ rules.stakePerPoint.toInt := Int.le_of_lt stake
  have most := Int.mul_le_mul_of_nonneg_right h.2 nonneg
  have least := Int.mul_le_mul_of_nonneg_right h.1 nonneg
  rw [Int.neg_mul] at least
  unfold InRange
  omega

theorem inRange (h : -(21 * (rules.seasonLength.toInt + 1)) ≤ n ∧
    n ≤ 21 * (rules.seasonLength.toInt + 1)) : InRange n := by
  obtain ⟨season, stake, worth⟩ := ordinary
  -- a stake of more than one only makes the limit lower
  have one : 21 * (rules.seasonLength.toInt + 1) * 1
      ≤ 21 * (rules.seasonLength.toInt + 1) * rules.stakePerPoint.toInt :=
    Int.mul_le_mul_of_nonneg_left stake (by omega)
  unfold InRange
  omega

/-- What is left at the end of a sum is worth its points times the stake. -/
theorem returns_worth {lead : Int32} (h : lead.toInt = n)
    (small : -(21 * (rules.seasonLength.toInt + 1)) ≤ n ∧
      n ≤ 21 * (rules.seasonLength.toInt + 1)) :
    Returns (mul lead rules.stakePerPoint) (n * rules.stakePerPoint.toInt) := by
  subst h
  exact returns_mul (ordinary.inRange_mul small)

end Rules.Ordinary

theorem Fixture.pointsFor_bounds (fixture : Fixture) (team : String) :
    0 ≤ (fixture.pointsFor team).toInt ∧ (fixture.pointsFor team).toInt ≤ 3 := by
  rcases fixture.pointsFor_mem team with h | h | h <;> rw [h] <;> decide

namespace Projection

theorem provisional_bounds (team : String) (latest : Fixture) :
    0 ≤ provisional team latest ∧ provisional team latest ≤ 3 := by
  unfold provisional
  split
  · exact latest.pointsFor_bounds team
  · decide

section

variable {rules : Rules} {assignment : Assignment} {row : Standing}
variable {headToHead : List Fixture} {latest : Fixture} {p : Projection}
variable (ordinary : rules.Ordinary) (standing : row.Ordinary rules)
variable (few : (unfinished headToHead : Int) ≤ rules.seasonLength.toInt + 1)

include ordinary standing

/-- **In an ordinary league projections are built.** -/
theorem exists_build_of_ordinary :
    ∃ p, build rules assignment row headToHead latest = .ok p := by
  have season := ordinary.season
  have points := standing.points
  have played := standing.played
  have provisional := latest.pointsFor_bounds assignment.team
  refine exists_build ?_ fun _ => ⟨ordinary.inRange (by omega), ordinary.inRange (by omega)⟩
  -- more games than a season has are no harm: no number of games is too large to be taken off
  have most := inRange_toInt rules.seasonLength
  have games := inRange_toInt row.playedGames
  unfold InRange at most games ⊢
  omega

omit standing in
include few in
theorem toInt_unfinished :
    (Int32.ofNat (unfinished headToHead)).toInt = unfinished headToHead := by
  have fits : InRange (unfinished headToHead) := ordinary.inRange (by omega)
  unfold InRange at fits
  exact Int32.toInt_ofNat_of_lt (by omega)

variable (built : build rules assignment row headToHead latest = .ok p)

include few built

omit standing in
theorem tally_of_build : p.tally = .build rules assignment.team row headToHead latest := by
  obtain ⟨_, _, current, played, adjusted, remaining, between, _⟩ := exact_of_build built
  unfold tally
  rw [current, played, adjusted, remaining, between, toInt_unfinished ordinary few]
  unfold Tally.build provisional
  split
  · rfl
  · rw [Int.sub_zero, Int.add_zero]

theorem within_of_build : p.Within rules := by
  have season := ordinary.season
  have points := standing.points
  have played := standing.played
  have backedOut := provisional_bounds assignment.team latest
  obtain ⟨_, _, current, _, adjusted, remaining, between, _⟩ := exact_of_build built
  refine ⟨?_, ?_, ?_, ?_⟩
  · rw [current]
    omega
  · rw [adjusted]
    omega
  · rw [remaining]
    split <;> omega
  · rw [between, toInt_unfinished ordinary few]
    omega

end

end Projection

/-! ## Settlements -/

namespace Settlement

variable {rules : Rules} {own opponent a b : Projection}

/-- Six points for each fixture is what two parties can be apart, and three are to be won; where the
rivals meet, one goes to each of them. -/
theorem bestAgainst_bounds (ho : own.Within rules) (ha : opponent.Within rules) :
    -(7 * (rules.seasonLength.toInt + 1)) ≤ Tally.bestAgainst own.tally opponent.tally ∧
      Tally.bestAgainst own.tally opponent.tally ≤ 9 * (rules.seasonLength.toInt + 1) := by
  have adjusted := ho.adjusted
  have remaining := ho.remaining
  have between := ho.headToHead
  have others := ha.adjusted
  unfold Tally.bestAgainst Projection.tally
  dsimp only
  omega

theorem worstAgainst_bounds (ho : own.Within rules) (ha : opponent.Within rules) :
    -(9 * (rules.seasonLength.toInt + 1)) ≤ Tally.worstAgainst own.tally opponent.tally ∧
      Tally.worstAgainst own.tally opponent.tally ≤ 9 * (rules.seasonLength.toInt + 1) := by
  have adjusted := ho.adjusted
  have between := ho.headToHead
  have others := ha.adjusted
  have remaining := ha.remaining
  unfold Tally.worstAgainst Projection.tally
  dsimp only
  omega

theorem returns_wins {left : Int32} (h : InRange (left.toInt * 3)) :
    Returns (mul left winPoints) (left.toInt * 3) := returns_mul h

theorem returns_draws {left : Int32} (h : InRange (left.toInt * 1)) :
    Returns (mul left headToHeadFloor) (left.toInt * 1) := returns_mul h

section

variable (ordinary : rules.Ordinary)

include ordinary

theorem returns_owed (ho : own.Within rules) (ha : a.Within rules) :
    ∃ direction amount, owed rules own a = .ok (direction, amount) ∧
      amount.toInt = Tally.owed rules.stakePerPoint.toInt own.tally a.tally := by
  have hown := ho.current
  have ha := ha.current
  obtain ⟨gap, hgap, exact⟩ := returns_sub (ordinary.inRange
    (n := own.currentPoints.toInt - a.currentPoints.toInt) (by omega))
  obtain ⟨amount, hamount, worth⟩ := ordinary.returns_worth exact (by omega)
  refine ⟨.between own.currentPoints a.currentPoints, amount, ?_, worth⟩
  unfold owed
  rw [hgap]
  simp only [bind, Except.bind, hamount]

theorem returns_netBalance (ho : own.Within rules) (ha : a.Within rules) (hb : b.Within rules) :
    Returns (netBalance rules own a b)
      (Tally.netBalance rules.stakePerPoint.toInt own.tally a.tally b.tally) := by
  have hown := ho.current
  have ha := ha.current
  have hb := hb.current
  unfold netBalance
  refine (returns_sub (ordinary.inRange (by omega))).bind fun overA hA => ?_
  refine (returns_add (ordinary.inRange (by omega))).bind fun twice hTwice => ?_
  refine (returns_sub (ordinary.inRange (by omega))).bind fun gap hgap => ?_
  rw [hTwice, hA] at hgap
  have worth := ordinary.returns_worth hgap (by omega)
  exact worth

theorem returns_bestAgainst (ho : own.Within rules) (ha : opponent.Within rules) :
    Returns (bestAgainst own opponent) (Tally.bestAgainst own.tally opponent.tally) := by
  have adjusted := ho.adjusted
  have remaining := ho.remaining
  have between := ho.headToHead
  have others := ha.adjusted
  unfold bestAgainst
  refine (returns_wins (ordinary.inRange (by omega))).bind fun wins hwins => ?_
  refine (returns_add (ordinary.inRange (by omega))).bind fun most hmost => ?_
  refine (returns_draws (ordinary.inRange (by omega))).bind fun draws hdraws => ?_
  refine (returns_add (ordinary.inRange (by omega))).bind fun least hleast => ?_
  rw [hwins] at hmost
  rw [hdraws] at hleast
  have lead : Tally.bestAgainst own.tally opponent.tally = most.toInt - least.toInt := by
    rw [hmost, hleast]
    rfl
  rw [lead]
  exact returns_sub (ordinary.inRange (by omega))

theorem returns_worstAgainst (ho : own.Within rules) (ha : opponent.Within rules) :
    Returns (worstAgainst own opponent) (Tally.worstAgainst own.tally opponent.tally) := by
  have adjusted := ho.adjusted
  have between := ho.headToHead
  have others := ha.adjusted
  have remaining := ha.remaining
  unfold worstAgainst
  refine (returns_sub (ordinary.inRange (by omega))).bind fun apart hapart => ?_
  refine (returns_wins (ordinary.inRange (by omega))).bind fun wins hwins => ?_
  rw [hapart] at hwins
  refine (returns_add (ordinary.inRange (by omega))).bind fun most hmost => ?_
  rw [hwins] at hmost
  have lead : Tally.worstAgainst own.tally opponent.tally
      = own.adjustedPoints.toInt - most.toInt := by
    rw [hmost]
    rfl
  rw [lead]
  exact returns_sub (ordinary.inRange (by omega))

theorem returns_bestCase (ho : own.Within rules) (ha : a.Within rules) (hb : b.Within rules) :
    Returns (bestCase rules own a b)
      (Tally.bestCase rules.stakePerPoint.toInt own.tally a.tally b.tally) := by
  have boundsA := bestAgainst_bounds ho ha
  have boundsB := bestAgainst_bounds ho hb
  unfold bestCase
  refine (returns_bestAgainst ordinary ho ha).bind fun overA hA => ?_
  refine (returns_bestAgainst ordinary ho hb).bind fun overB hB => ?_
  refine (returns_add (ordinary.inRange (by omega))).bind fun both hboth => ?_
  rw [hA, hB] at hboth
  exact ordinary.returns_worth hboth (by omega)

theorem returns_worstCase (ho : own.Within rules) (ha : a.Within rules) (hb : b.Within rules) :
    Returns (worstCase rules own a b)
      (Tally.worstCase rules.stakePerPoint.toInt own.tally a.tally b.tally) := by
  have boundsA := worstAgainst_bounds ho ha
  have boundsB := worstAgainst_bounds ho hb
  have rivals := ho.headToHead
  unfold worstCase
  refine (returns_worstAgainst ordinary ho ha).bind fun overA hA => ?_
  refine (returns_worstAgainst ordinary ho hb).bind fun overB hB => ?_
  refine (returns_add (ordinary.inRange (by omega))).bind fun both hboth => ?_
  rw [hA, hB] at hboth
  refine (returns_wins (ordinary.inRange (by omega))).bind fun between hbetween => ?_
  refine (returns_sub (ordinary.inRange (by omega))).bind fun total htotal => ?_
  rw [hboth, hbetween] at htotal
  have worth := ordinary.returns_worth htotal (by omega)
  exact worth

/-- **In an ordinary league each party has a row**, with the figures of whole numbers. -/
theorem exists_row (ho : own.Within rules) (ha : a.Within rules) (hb : b.Within rules) :
    ∃ r, row rules own a b = .ok r ∧
      r.figures = Tally.figures rules.stakePerPoint.toInt own.tally a.tally b.tally := by
  obtain ⟨directionA, amountA, owedA, hA⟩ := returns_owed ordinary ho ha
  obtain ⟨directionB, amountB, owedB, hB⟩ := returns_owed ordinary ho hb
  obtain ⟨best, bestIs, hbest⟩ := returns_bestCase ordinary ho ha hb
  obtain ⟨worst, worstIs, hworst⟩ := returns_worstCase ordinary ho ha hb
  obtain ⟨net, netIs, hnet⟩ := returns_netBalance ordinary ho ha hb
  unfold row
  rw [owedA, owedB, bestIs, worstIs, netIs]
  refine ⟨_, rfl, ?_⟩
  unfold SettlementRow.figures
  rw [hA, hB, hbest, hworst, hnet]
  rfl

end

/-- The tally of each party, by the formula of a projection. -/
def tallyOf (rules : Rules) (assignments : Trio Assignment) (standings : Trio Standing)
    (fixtures : Trio (List Fixture)) (latest : Trio Fixture) (seat : Seat) : Tally :=
  .build rules (assignments.get seat).team (standings.get seat) (fixtures.get seat)
    (latest.get seat)

/-- **Ordinary leagues fit.** Take rules for which twenty-one points for each fixture of a season,
and for one more, are worth no more than 32 bits hold; rows of the table with no more points than a
season has, in either direction; at most one more unfinished fixture between two rivals than a
season has fixtures; and any latest fixtures, live or not. Then each party's projection is built; no
sum or product on the way to an amount, a balance, a best or a worst case overflows, between
whichever of the parties; the settlement returns three rows; and each figure in them is that of the
same formula among whole numbers without bounds. -/
theorem settles_in_whole_numbers {rules : Rules} (ordinary : rules.Ordinary)
    {standings : Trio Standing} (standing : ∀ seat, (standings.get seat).Ordinary rules)
    {fixtures : Trio (List Fixture)}
    (few : ∀ seat, (Projection.unfinished (fixtures.get seat) : Int) ≤ rules.seasonLength.toInt + 1)
    (assignments : Trio Assignment) (latest : Trio Fixture) :
    let tally := tallyOf rules assignments standings fixtures latest
    let stake := rules.stakePerPoint.toInt
    ∃ (ps : Trio Projection) (rowOf : Seat → SettlementRow),
      (∀ seat, Projection.build rules (assignments.get seat) (standings.get seat)
          (fixtures.get seat) (latest.get seat) = .ok (ps.get seat) ∧
        (ps.get seat).tally = tally seat) ∧
      (∀ own a b,
        (∃ direction amount, owed rules (ps.get own) (ps.get a) = .ok (direction, amount) ∧
          amount.toInt = Tally.owed stake (tally own) (tally a)) ∧
        Returns (netBalance rules (ps.get own) (ps.get a) (ps.get b))
          (Tally.netBalance stake (tally own) (tally a) (tally b)) ∧
        Returns (bestCase rules (ps.get own) (ps.get a) (ps.get b))
          (Tally.bestCase stake (tally own) (tally a) (tally b)) ∧
        Returns (worstCase rules (ps.get own) (ps.get a) (ps.get b))
          (Tally.worstCase stake (tally own) (tally a) (tally b))) ∧
      all rules ps = .ok (ranked (Seat.all.map rowOf)) ∧
      (ranked (Seat.all.map rowOf)).length = 3 ∧
      ∀ seat, row rules (ps.get seat) (ps.get seat.rivals.1) (ps.get seat.rivals.2)
          = .ok (rowOf seat) ∧
        (rowOf seat).figures
          = Tally.figures stake (tally seat) (tally seat.rivals.1) (tally seat.rivals.2) := by
  intro tally stake
  have builds (seat : Seat) : ∃ p, Projection.build rules (assignments.get seat)
      (standings.get seat) (fixtures.get seat) (latest.get seat) = .ok p :=
    Projection.exists_build_of_ordinary ordinary (standing seat)
  choose p built using builds
  have within (seat : Seat) : (p seat).Within rules :=
    Projection.within_of_build ordinary (standing seat) (few seat) (built seat)
  have counts (seat : Seat) : (p seat).tally = tally seat :=
    Projection.tally_of_build ordinary (few seat) (built seat)
  choose rowOf made figures using fun seat : Seat => exists_row ordinary (within seat)
    (within seat.rivals.1) (within seat.rivals.2)
  let ps : Trio Projection := ⟨p .first, p .second, p .third⟩
  have get (seat : Seat) : ps.get seat = p seat := by cases seat <;> rfl
  refine ⟨ps, rowOf, ?_, ?_, all_of_rowsOf ?_,
    (ranked_perm _).length_eq, ?_⟩
  · intro seat
    rw [get]
    exact ⟨built seat, counts seat⟩
  · intro own a b
    rw [get, get, get, ← counts own, ← counts a, ← counts b]
    exact ⟨returns_owed ordinary (within own) (within a),
      returns_netBalance ordinary (within own) (within a) (within b),
      returns_bestCase ordinary (within own) (within a) (within b),
      returns_worstCase ordinary (within own) (within a) (within b)⟩
  · intro seat
    rw [get, get, get]
    exact made seat
  · intro seat
    rw [get, get, get, ← counts seat, ← counts seat.rivals.1, ← counts seat.rivals.2]
    exact ⟨made seat, figures seat⟩

/-- Rules with a stake that is as high as it can be. -/
def highRules : Rules := ⟨38, 2622080⟩

/-- Before any match is over one team has lost all its points and its rivals have won all theirs. -/
def farApart : Trio Standing :=
  ⟨.ofGames "Liverpool" 0 (-114), .ofGames "Chelsea" 0 114, .ofGames "Tottenham" 0 114⟩

/-- Each of the three is ahead in a live match. -/
def allAhead : Trio Fixture := ⟨.onDay 1 "Liverpool" "Everton" .inPlay,
  .onDay 1 "Chelsea" "Arsenal" .inPlay, .onDay 1 "Tottenham" "Fulham" .paused⟩

/-- As many fixtures between two rivals as the bound allows, or none. -/
def manyMeetings : Trio (List Fixture) :=
  ⟨[], .replicate 39 (.onDay 9 "Liverpool" "Tottenham" .timed), []⟩

theorem settles_in_whole_numbers_farApart :
    highRules.Ordinary ∧ (∀ seat, (farApart.get seat).Ordinary highRules) ∧
      (∀ seat, (Projection.unfinished (manyMeetings.get seat) : Int) ≤ 39) ∧
      ∃ (ps : Trio Projection) (rowOf : Seat → SettlementRow),
        all highRules ps = .ok (ranked (Seat.all.map rowOf)) ∧
          (rowOf .first).figures
            = ⟨0, -114, -597834240, -597834240, -582101760, -1809235200, -1195668480⟩ := by
  have ordinary : highRules.Ordinary := ⟨by decide, by decide, by decide⟩
  have standing (seat : Seat) : (farApart.get seat).Ordinary highRules := by
    cases seat <;> exact ⟨by decide, by decide⟩
  have few : ∀ seat, (Projection.unfinished (manyMeetings.get seat) : Int) ≤ 39 := by decide
  obtain ⟨ps, rowOf, _, _, settled, _, figures⟩ :=
    settles_in_whole_numbers ordinary standing few Config.plain.assignments allAhead
  refine ⟨ordinary, standing, few, ps, rowOf, settled, ?_⟩
  rw [(figures .first).2]
  decide

end Settlement

end LeagueWager
