import LeagueWager.Proofs.Figures
import LeagueWager.Proofs.Rows

/-!
# Running scores

The table counts a match that is being played as if it ended now, so it moves with every goal. A
projection takes those points out again and plays the match once more. What a settlement makes of
the rest of the season therefore stands still while the match goes on; only what is owed at the
moment moves, by the stake for each point that a team gains or loses.

* `Situation.Projected.of_builds`: what a projection keeps of a score, and what it does not;
* `Settlement.bestCase_of_sameRest`, `Settlement.worstCase_of_sameRest`: the cases look at nothing
  that a score moves;
* `Settlement.rows_at_two_scores`: two runs at two scores, row by row.
-/

namespace LeagueWager

/-- The fixture with these goals, if it is being played. -/
def Fixture.showing (goals : Fixture → Goals) (fixture : Fixture) : Fixture :=
  if fixture.status.isLive then
    { fixture with score := { fixture.score with fullTime := goals fixture } }
  else fixture

@[simp] theorem Fixture.status_showing (goals : Fixture → Goals) (fixture : Fixture) :
    (fixture.showing goals).status = fixture.status := by
  unfold showing
  split <;> rfl

theorem Projection.unfinished_showing (goals : Fixture → Goals) (fixtures : List Fixture) :
    unfinished (fixtures.map (·.showing goals)) = unfinished fixtures := by
  simp only [unfinished, List.countP_map, Function.comp_def, Fixture.status_showing]

/-- Where a team stands, whatever the running scores are. -/
structure Situation where
  /-- Points in the table, without a match that is being played. -/
  base : Int
  playedGames : Int32
  /-- The fixtures between the two rivals. -/
  between : List Fixture
  latest : Fixture

namespace Situation

/-- What the running match is worth to the team, as it stands. -/
def running (situation : Situation) (team : String) (goals : Fixture → Goals) : Int :=
  Projection.provisional team (situation.latest.showing goals)

/-- What is read for the team while the matches stand at `goals`. The table already counts the
running match. -/
def ReadAt (situation : Situation) (team : String) (goals : Fixture → Goals) (reads : Reads) :
    Prop :=
  ∃ standing, reads.Return standing (situation.between.map (·.showing goals))
      (situation.latest.showing goals) ∧
    standing.playedGames = situation.playedGames ∧
    standing.points.toInt = situation.base + situation.running team goals

/-- What the team gains while the matches go from one score to another. -/
def gain (situation : Situation) (team : String) (goals goals' : Fixture → Goals) : Int :=
  situation.running team goals' - situation.running team goals

variable {situation : Situation} {rules : Rules} {assignment : Assignment} {reads : Reads}
variable {goals : Fixture → Goals} {p : Projection}

/-- What a projection of the team holds. Only its current points depend on the score. -/
structure Projected (situation : Situation) (rules : Rules) (team : String)
    (goals : Fixture → Goals) (p : Projection) : Prop where
  currentPoints : p.currentPoints.toInt = situation.base + situation.running team goals
  adjustedPoints : p.adjustedPoints.toInt = situation.base
  remainingMatches : p.remainingMatches.toInt
    = max (rules.seasonLength.toInt - situation.playedGames.toInt) 0
      + if situation.latest.status.isLive then 1 else 0
  remainingHeadToHead :
    p.remainingHeadToHead = Int32.ofNat (Projection.unfinished situation.between)

/-- **What is taken out of the table is what the running match put into it.** -/
theorem Projected.of_builds (read : situation.ReadAt assignment.team goals reads)
    (builds : reads.Builds rules assignment p) :
    situation.Projected rules assignment.team goals p := by
  obtain ⟨standing, ⟨hs, hb, hl⟩, played, points⟩ := read
  obtain ⟨standing', between, latest, ⟨hs', hb', hl'⟩, built⟩ := builds
  obtain rfl := Read.value.inj (hs.symm.trans hs')
  obtain rfl := Read.value.inj (hb.symm.trans hb')
  obtain rfl := Read.value.inj (hl.symm.trans hl')
  have exact := Projection.exact_of_build built
  refine ⟨?_, ?_, ?_, ?_⟩
  · rw [exact.currentPoints, points]
  · rw [exact.adjustedPoints, points]
    exact Int.add_sub_cancel _ _
  · rw [exact.remainingMatches, played, Fixture.status_showing]
  · rw [exact.remainingHeadToHead, Projection.unfinished_showing]

end Situation

/-! ## The rest of the season -/

/-- Two projections see the same rest of the season. -/
structure Projection.SameRest (p q : Projection) : Prop where
  adjustedPoints : q.adjustedPoints = p.adjustedPoints
  remainingMatches : q.remainingMatches = p.remainingMatches
  remainingHeadToHead : q.remainingHeadToHead = p.remainingHeadToHead

theorem Situation.Projected.sameRest {situation : Situation} {rules : Rules} {team : String}
    {goals goals' : Fixture → Goals} {p q : Projection}
    (h : situation.Projected rules team goals p) (h' : situation.Projected rules team goals' q) :
    p.SameRest q where
  adjustedPoints := Int32.toInt_inj.mp (h'.adjustedPoints.trans h.adjustedPoints.symm)
  remainingMatches := Int32.toInt_inj.mp (h'.remainingMatches.trans h.remainingMatches.symm)
  remainingHeadToHead := h'.remainingHeadToHead.trans h.remainingHeadToHead.symm

namespace Settlement

section

variable {rules : Rules} {own own' a a' b b' : Projection}
variable (ho : own.SameRest own') (ha : a.SameRest a') (hb : b.SameRest b')

include ho ha

theorem bestAgainst_of_sameRest : bestAgainst own' a' = bestAgainst own a := by
  unfold bestAgainst
  rw [ho.adjustedPoints, ho.remainingMatches, ho.remainingHeadToHead, ha.adjustedPoints]

theorem worstAgainst_of_sameRest : worstAgainst own' a' = worstAgainst own a := by
  unfold worstAgainst
  rw [ho.adjustedPoints, ho.remainingHeadToHead, ha.adjustedPoints, ha.remainingMatches]

include hb

/-- **The best case depends on the rest of the season alone.** -/
theorem bestCase_of_sameRest : bestCase rules own' a' b' = bestCase rules own a b := by
  unfold bestCase
  rw [bestAgainst_of_sameRest ho ha, bestAgainst_of_sameRest ho hb]

/-- **The worst case depends on the rest of the season alone.** -/
theorem worstCase_of_sameRest : worstCase rules own' a' b' = worstCase rules own a b := by
  unfold worstCase
  rw [worstAgainst_of_sameRest ho ha, worstAgainst_of_sameRest ho hb, ho.remainingHeadToHead]

end

section

variable {rules : Rules} {ps ps' : Trio Projection} {rowOf rowOf' : Seat → SettlementRow}
variable (made : RowsOf rules ps rowOf) (made' : RowsOf rules ps' rowOf')

include made made'

theorem cases_of_sameRest (same : ∀ seat, (ps.get seat).SameRest (ps'.get seat)) (seat : Seat) :
    (rowOf' seat).bestCase = (rowOf seat).bestCase ∧
      (rowOf' seat).worstCase = (rowOf seat).worstCase := by
  have prospects := Prospects.of_row (made seat)
  have prospects' := Prospects.of_row (made' seat)
  have best := prospects'.bestCase
  rw [bestCase_of_sameRest (same _) (same _) (same _), prospects.bestCase] at best
  have worst := prospects'.worstCase
  rw [worstCase_of_sameRest (same _) (same _) (same _), prospects.worstCase] at worst
  exact ⟨(Except.ok.inj best).symm, (Except.ok.inj worst).symm⟩

variable {gain : Seat → Int}
variable (gains : ∀ seat, (rowOf' seat).points.toInt = (rowOf seat).points.toInt + gain seat)

include gains

/-- An amount moves by the stake for each point that one party gains on the other. -/
theorem amount_of_gains {seat other : Seat} (ne : seat ≠ other) :
    ((rowOf' seat).against seat other).2.toInt - ((rowOf seat).against seat other).2.toInt
      = rules.stakePerPoint.toInt * (gain seat - gain other) := by
  rw [(against_eq made' ne).2, (against_eq made ne).2, gains, gains, ← Int.sub_mul, Int.mul_comm]
  congr 1
  omega

/-- A balance moves by what the party gains on both others. -/
theorem balance_of_gains (seat : Seat) :
    (rowOf' seat).balanceAmount.toInt - (rowOf seat).balanceAmount.toInt
      = rules.stakePerPoint.toInt
        * ((gain seat - gain seat.rivals.1) + (gain seat - gain seat.rivals.2)) := by
  have points (seat : Seat) : (ps.get seat).currentPoints = (rowOf seat).points :=
    (Figures.of_row (made seat)).points.symm
  have points' (seat : Seat) : (ps'.get seat).currentPoints = (rowOf' seat).points :=
    (Figures.of_row (made' seat)).points.symm
  rw [(Figures.of_row (made' seat)).balanceAmount, (Figures.of_row (made seat)).balanceAmount]
  simp only [points, points', gains, ← Int.sub_mul]
  rw [Int.mul_comm]
  congr 1
  omega

end

/-- **The rest of the season does not depend on the running score.** Three teams are read in two
runs, at any two scores of the matches that are being played; a match that two of them play is one
match in both. If both runs come to rows, each team has the same points without the running match in
both, and as many matches to play, and its row has the same best and worst case. Each amount, and
each balance, moves by just the stake for every point that the party gains on the other, or on the
other two. -/
theorem rows_at_two_scores {rules : Rules} {assignments : Trio Assignment}
    (situation : Seat → Situation) (goals goals' : Fixture → Goals) {reads reads' : Trio Reads}
    (read : ∀ seat,
      (situation seat).ReadAt (assignments.get seat).team goals (reads.get seat))
    (read' : ∀ seat,
      (situation seat).ReadAt (assignments.get seat).team goals' (reads'.get seat))
    {rows rows' : List SettlementRow} (done : Reads.settle rules assignments reads = .done rows)
    (done' : Reads.settle rules assignments reads' = .done rows') :
    ∃ (ps ps' : Trio Projection) (rowOf rowOf' : Seat → SettlementRow) (gain : Seat → Int),
      (∀ seat, (reads.get seat).Builds rules (assignments.get seat) (ps.get seat)) ∧
      (∀ seat, (reads'.get seat).Builds rules (assignments.get seat) (ps'.get seat)) ∧
      (RowsOf rules ps rowOf ∧ rows.Perm (Seat.all.map rowOf)) ∧
      (RowsOf rules ps' rowOf' ∧ rows'.Perm (Seat.all.map rowOf')) ∧
      ∀ seat,
        gain seat = (situation seat).gain (assignments.get seat).team goals goals' ∧
        ((ps.get seat).adjustedPoints.toInt = (situation seat).base ∧
          (ps'.get seat).adjustedPoints = (ps.get seat).adjustedPoints ∧
          (ps'.get seat).remainingMatches = (ps.get seat).remainingMatches) ∧
        ((rowOf' seat).bestCase = (rowOf seat).bestCase ∧
          (rowOf' seat).worstCase = (rowOf seat).worstCase) ∧
        (∀ other, seat ≠ other →
          ((rowOf' seat).against seat other).2.toInt - ((rowOf seat).against seat other).2.toInt
            = rules.stakePerPoint.toInt * (gain seat - gain other)) ∧
        (rowOf' seat).balanceAmount.toInt - (rowOf seat).balanceAmount.toInt
          = rules.stakePerPoint.toInt
            * ((gain seat - gain seat.rivals.1) + (gain seat - gain seat.rivals.2)) := by
  obtain ⟨rowOf, ⟨ps, builds, made⟩, rfl⟩ := Reads.exists_makes done
  obtain ⟨rowOf', ⟨ps', builds', made'⟩, rfl⟩ := Reads.exists_makes done'
  have projected (seat : Seat) := Situation.Projected.of_builds (read seat) (builds seat)
  have projected' (seat : Seat) := Situation.Projected.of_builds (read' seat) (builds' seat)
  have same (seat : Seat) := (projected seat).sameRest (projected' seat)
  have gains (seat : Seat) : (rowOf' seat).points.toInt = (rowOf seat).points.toInt
      + (situation seat).gain (assignments.get seat).team goals goals' := by
    rw [(Figures.of_row (made' seat)).points, (Figures.of_row (made seat)).points,
      (projected' seat).currentPoints, (projected seat).currentPoints, Situation.gain]
    omega
  have rest (seat : Seat) : (ps.get seat).adjustedPoints.toInt = (situation seat).base ∧
      (ps'.get seat).adjustedPoints = (ps.get seat).adjustedPoints ∧
      (ps'.get seat).remainingMatches = (ps.get seat).remainingMatches :=
    ⟨(projected seat).adjustedPoints, (same seat).adjustedPoints, (same seat).remainingMatches⟩
  refine ⟨ps, ps', rowOf, rowOf', _, builds, builds', ⟨made, ranked_perm _⟩,
    ⟨made', ranked_perm _⟩,
    fun seat => ⟨rfl, rest seat, cases_of_sameRest made made' same seat, ?_, ?_⟩⟩
  · intro other ne
    exact amount_of_gains made made' gains ne
  · exact balance_of_gains made made' gains seat

/-! ## One match for two of the teams -/

/-- The first two teams play each other, and the third has played. -/
def derby : Fixture := .onDay 3 "Liverpool" "Chelsea" .inPlay

def derbyDay : Seat → Situation
  | .first => ⟨40, 28, [], derby⟩
  | .second => ⟨39, 28, [], derby⟩
  | .third => ⟨35, 28, [derby], .onDay 2 "Tottenham" "Arsenal" .finished⟩

/-- What is read of a team that has so many points in the table. -/
def derbyReads (goals : Fixture → Goals) (seat : Seat) (points : Int32) : Reads :=
  ⟨.value (.ofGames (Config.plain.teamOf seat) 28 points),
    .value ((derbyDay seat).between.map (·.showing goals)),
    .value ((derbyDay seat).latest.showing goals)⟩

/-- No goals are known yet, so the teams have a point each. -/
def beforeGoals : Trio Reads :=
  ⟨derbyReads (fun _ => .unknown) .first 41, derbyReads (fun _ => .unknown) .second 40,
    derbyReads (fun _ => .unknown) .third 35⟩

/-- The home side is in front. -/
def afterGoals : Trio Reads :=
  ⟨derbyReads (fun _ => ⟨some 2, some 1⟩) .first 43,
    derbyReads (fun _ => ⟨some 2, some 1⟩) .second 39,
    derbyReads (fun _ => ⟨some 2, some 1⟩) .third 35⟩

theorem readAt_derbyDay (goals : Fixture → Goals) (seat : Seat) (points : Int32)
    (h : points.toInt
      = (derbyDay seat).base + (derbyDay seat).running (Config.plain.teamOf seat) goals) :
    (derbyDay seat).ReadAt (Config.plain.assignments.get seat).team goals
      (derbyReads goals seat points) := by
  rw [Config.assignments_get]
  exact ⟨_, ⟨rfl, rfl, rfl⟩, by cases seat <;> rfl, h⟩

/-- The home side gains two points and the away side loses one, so fifteen more are owed between
them; the cases stay as they are. -/
theorem rows_at_two_scores_derbyDay :
    ∃ rows rows', Reads.settle .standard Config.plain.assignments beforeGoals = .done rows ∧
      Reads.settle .standard Config.plain.assignments afterGoals = .done rows' ∧
      ∃ rowOf rowOf' : Seat → SettlementRow,
        rows.Perm (Seat.all.map rowOf) ∧ rows'.Perm (Seat.all.map rowOf') ∧
        (rowOf' .second).worstCase = (rowOf .second).worstCase ∧
        ((rowOf' .first).against .first .second).2.toInt
          - ((rowOf .first).against .first .second).2.toInt = 15 := by
  obtain ⟨rows, done⟩ : ∃ rows,
      Reads.settle .standard Config.plain.assignments beforeGoals = .done rows :=
    Run.exists_of_isDone (by decide +kernel)
  obtain ⟨rows', done'⟩ : ∃ rows',
      Reads.settle .standard Config.plain.assignments afterGoals = .done rows' :=
    Run.exists_of_isDone (by decide +kernel)
  have read : ∀ seat, (derbyDay seat).ReadAt (Config.plain.assignments.get seat).team
      (fun _ => .unknown) (beforeGoals.get seat) := by
    intro seat
    cases seat <;> exact readAt_derbyDay _ _ _ (by decide +kernel)
  have read' : ∀ seat, (derbyDay seat).ReadAt (Config.plain.assignments.get seat).team
      (fun _ => ⟨some 2, some 1⟩) (afterGoals.get seat) := by
    intro seat
    cases seat <;> exact readAt_derbyDay _ _ _ (by decide +kernel)
  obtain ⟨_, _, rowOf, rowOf', gain, _, _, ⟨_, perm⟩, ⟨_, perm'⟩, rest⟩ :=
    rows_at_two_scores derbyDay _ _ read read' done done'
  obtain ⟨home, _, _, amount, _⟩ := rest .first
  obtain ⟨away, _, ⟨_, worst⟩, _⟩ := rest .second
  refine ⟨rows, rows', done, done', rowOf, rowOf', perm, perm', worst, ?_⟩
  rw [amount .second (by decide), home, away]
  decide +kernel

end Settlement

end LeagueWager
