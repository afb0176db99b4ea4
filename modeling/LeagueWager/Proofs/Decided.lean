import LeagueWager.Proofs.Figures
import LeagueWager.Proofs.Rows

/-!
# Nothing left to play

When every team has played its games, nothing is being played and all fixtures between the three
teams have a result, the rest of the season can change nothing: the best and the worst case are the
balance. The one exception are fixtures that were awarded. They have a result, but nobody played
them to their end, and a fixture between the rivals counts as open until it is finished: each one
that was awarded still gives the rivals a point each in the best case and one of them three in the
worst.

* `Projection.Spent.of_exact`: a projection with nothing left to play;
* `Settlement.bestCase_eq_of_spent`, `Settlement.worstCase_eq_of_spent`: how far the two cases are
  from the balance;
* `cases_of_seasonOver`: the rows at the end of a season;
* `not_collapsed_of_awarded`: an awarded fixture, and a row that does not collapse.
-/

namespace LeagueWager

/-- The fixture has a result for good: it was played to its end, or awarded. -/
def FixtureStatus.isDecided (status : FixtureStatus) : Bool :=
  status == .finished || status == .awarded

namespace Snapshot

/-- How many of the fixtures between two teams were awarded. -/
def awarded (fixtures : List Fixture) (a b : String) : Nat :=
  fixtures.countP fun f => f.isBetween a b && f.status == .awarded

/-- How many fixtures between a party's rivals were awarded, in 32 bits as projections count. -/
def awardedToRivals (snapshot : Snapshot) (config : Config) (seat : Seat) : Int :=
  (Int32.ofNat (awarded snapshot.fixtures (config.teamOf seat.rivals.1)
    (config.teamOf seat.rivals.2))).toInt

/-- Looked at from `now`, nothing is left to play for the teams of the wager. -/
structure SeasonOver (snapshot : Snapshot) (now : Instant) (config : Config) : Prop where
  /-- The table has all games of each team. -/
  played : ∀ seat standing, leagueEntry snapshot.table (config.teamOf seat) = .ok standing →
    config.rules.seasonLength ≤ standing.playedGames
  /-- No team is playing. -/
  idle : ∀ seat latest, latestMatch snapshot.fixtures (config.teamOf seat) now = .ok latest →
    latest.status.isLive = false
  /-- Every fixture between two of the teams has a result. -/
  decided : ∀ f ∈ snapshot.fixtures, ∀ seat other, seat ≠ other →
    f.isBetween (config.teamOf seat) (config.teamOf other) = true → f.status.isDecided = true

theorem unfinished_eq_awarded {fixtures : List Fixture} {a b : String}
    (decided : ∀ f ∈ fixtures, f.isBetween a b = true → f.status.isDecided = true) :
    Projection.unfinished (headToHead fixtures a b) = awarded fixtures a b := by
  unfold Projection.unfinished headToHead awarded
  rw [List.countP_filter]
  refine List.countP_congr fun f hf => ?_
  cases hb : f.isBetween a b with
  | false => simp
  | true =>
    have result := decided f hf hb
    -- two statuses have a result, and one of them is not finished
    cases hs : f.status <;> rw [hs] at result <;>
      simp_all [FixtureStatus.isDecided, FixtureStatus.hasFinished]

theorem awarded_eq_zero {fixtures : List Fixture} {a b : String}
    (finished : ∀ f ∈ fixtures, f.isBetween a b = true → f.status = .finished) :
    awarded fixtures a b = 0 := by
  refine List.countP_eq_zero.mpr fun f hf h => ?_
  obtain ⟨between, awarded⟩ := Bool.and_eq_true_iff.mp h
  rw [finished f hf between] at awarded
  cases awarded

end Snapshot

/-! ## Projections with nothing left -/

/-- Nothing is left to play for the party's team, and no running match is backed out. -/
structure Projection.Spent (p : Projection) : Prop where
  adjustedPoints : p.adjustedPoints.toInt = p.currentPoints.toInt
  remainingMatches : p.remainingMatches.toInt = 0

theorem Projection.Spent.of_exact {rules : Rules} {assignment : Assignment} {standing : Standing}
    {headToHead : List Fixture} {latest : Fixture} {p : Projection}
    (exact : Exact rules assignment standing headToHead latest p)
    (played : rules.seasonLength ≤ standing.playedGames) (idle : latest.status.isLive = false) :
    p.Spent := by
  constructor
  · rw [exact.adjustedPoints, exact.currentPoints, provisional, idle]
    exact Int.sub_zero _
  · rw [exact.remainingMatches, idle]
    -- a table with more games than the season has still leaves none
    have := Int32.le_iff_toInt_le.mp played
    simp only [Bool.false_eq_true, if_false]
    omega

namespace Settlement

variable {rules : Rules} {own a b : Projection} {r : SettlementRow}

/-- What is left in the best case is a point for each rival from each fixture between them. -/
theorem bestCase_eq_of_spent (ho : own.Spent) (ha : a.Spent) (hb : b.Spent)
    (h : row rules own a b = .ok r) : r.bestCase.toInt
      = r.balanceAmount.toInt - 2 * own.remainingHeadToHead.toInt * rules.stakePerPoint.toInt := by
  rw [toInt_bestCase (Prospects.of_row h).bestCase, (Figures.of_row h).balanceAmount,
    ho.adjustedPoints, ha.adjustedPoints, hb.adjustedPoints, ho.remainingMatches, ← Int.sub_mul]
  congr 1
  omega

/-- What is left in the worst case is what the fixtures between the rivals take from one of them. -/
theorem worstCase_eq_of_spent (ho : own.Spent) (ha : a.Spent) (hb : b.Spent)
    (h : row rules own a b = .ok r) : r.worstCase.toInt
      = r.balanceAmount.toInt + 3 * own.remainingHeadToHead.toInt * rules.stakePerPoint.toInt := by
  rw [toInt_worstCase (Prospects.of_row h).worstCase, (Figures.of_row h).balanceAmount,
    ho.adjustedPoints, ha.adjustedPoints, hb.adjustedPoints, ha.remainingMatches,
    hb.remainingMatches, ← Int.add_mul]
  congr 1
  omega

end Settlement

/-! ## The end of a season -/

namespace Snapshot

variable {snapshot : Snapshot} {now : Instant} {config : Config}

theorem SeasonOver.of_builds (ended : SeasonOver snapshot now config) {seat : Seat} {p : Projection}
    (h : (Reads.ofProvider (snapshot.provider now) (config.assignments.get seat)).Builds config.rules
      (config.assignments.get seat) p) :
    p.Spent ∧ p.teamName = config.teamOf seat ∧ p.playerName = (config.parties.get seat).player ∧
      p.remainingHeadToHead.toInt = snapshot.awardedToRivals config seat := by
  obtain ⟨standing, latest, hs, hl, hb⟩ := exists_of_builds h
  rw [config.assignments_get] at hs hl hb
  have exact := Projection.exact_of_build hb
  refine ⟨.of_exact exact (ended.played seat standing hs) (ended.idle seat latest hl),
    exact.teamName, exact.playerName, ?_⟩
  rw [exact.remainingHeadToHead, unfinished_eq_awarded]
  · rfl
  · intro f hf between
    exact ended.decided f hf _ _ seat.rivals_ne.2.2 between

theorem SeasonOver.exists_rowOf {rows : List SettlementRow} (ended : SeasonOver snapshot now config)
    (h : (snapshot.provider now).settle config.rules config.assignments = .done rows) :
    ∃ rowOf : Seat → SettlementRow, rows.Perm (Seat.all.map rowOf) ∧ ∀ seat,
      ((rowOf seat).teamName = Text.lower (config.teamOf seat) ∧
        (rowOf seat).playerName = (config.parties.get seat).player) ∧
      (rowOf seat).bestCase.toInt = (rowOf seat).balanceAmount.toInt
        - 2 * snapshot.awardedToRivals config seat * config.rules.stakePerPoint.toInt ∧
      (rowOf seat).worstCase.toInt = (rowOf seat).balanceAmount.toInt
        + 3 * snapshot.awardedToRivals config seat * config.rules.stakePerPoint.toInt := by
  obtain ⟨rowOf, ⟨ps, builds, own⟩, rfl⟩ := Reads.exists_makes h
  have built := fun seat => ended.of_builds (Trio.get_map _ config.assignments seat ▸ builds seat)
  refine ⟨rowOf, Settlement.ranked_perm _, fun seat => ?_⟩
  obtain ⟨spent, teamName, playerName, count⟩ := built seat
  -- the cases take in what is left to the rivals as well, and that is nothing either
  have spentA := (built seat.rivals.1).1
  have spentB := (built seat.rivals.2).1
  have told := Settlement.Told.of_row (own seat)
  rw [told.teamName, told.playerName, teamName, playerName, ← count]
  exact ⟨⟨rfl, rfl⟩, Settlement.bestCase_eq_of_spent spent spentA spentB (own seat),
    Settlement.worstCase_eq_of_spent spent spentA spentB (own seat)⟩

/-- **With nothing left to play, the projections collapse to the balance**, up to the fixtures that
were awarded. The best case of a party is two points, at the stake, below its balance for each
fixture between its rivals that was awarded, and the worst case three points above; so both are the
balance if there is none, and in every row if all fixtures between the teams are finished. -/
theorem cases_of_seasonOver {rows : List SettlementRow}
    (h : (snapshot.provider now).settle config.rules config.assignments = .done rows)
    (ended : SeasonOver snapshot now config) :
    ∃ rowOf : Seat → SettlementRow, rows.Perm (Seat.all.map rowOf) ∧
      (∀ seat, (rowOf seat).teamName = Text.lower (config.teamOf seat) ∧
        (rowOf seat).playerName = (config.parties.get seat).player) ∧
      (∀ seat,
        (rowOf seat).bestCase.toInt = (rowOf seat).balanceAmount.toInt
            - 2 * snapshot.awardedToRivals config seat * config.rules.stakePerPoint.toInt ∧
          (rowOf seat).worstCase.toInt = (rowOf seat).balanceAmount.toInt
            + 3 * snapshot.awardedToRivals config seat * config.rules.stakePerPoint.toInt) ∧
      (∀ seat, snapshot.awardedToRivals config seat = 0 →
        (rowOf seat).bestCase = (rowOf seat).balanceAmount ∧
          (rowOf seat).worstCase = (rowOf seat).balanceAmount) ∧
      ((∀ f ∈ snapshot.fixtures, ∀ seat other, seat ≠ other →
          f.isBetween (config.teamOf seat) (config.teamOf other) = true → f.status = .finished) →
        ∀ r ∈ rows, r.bestCase = r.balanceAmount ∧ r.worstCase = r.balanceAmount) := by
  obtain ⟨rowOf, perm, all⟩ := ended.exists_rowOf h
  have collapsed (seat : Seat) (none : snapshot.awardedToRivals config seat = 0) :
      (rowOf seat).bestCase = (rowOf seat).balanceAmount ∧
        (rowOf seat).worstCase = (rowOf seat).balanceAmount := by
    obtain ⟨_, best, worst⟩ := all seat
    rw [none] at best worst
    constructor
    · exact Int32.toInt_inj.mp (by omega)
    · exact Int32.toInt_inj.mp (by omega)
  refine ⟨rowOf, perm, fun seat => (all seat).1, fun seat => (all seat).2, collapsed, ?_⟩
  intro finished r hr
  obtain ⟨seat, _, rfl⟩ := List.mem_map.mp (perm.mem_iff.mp hr)
  refine collapsed seat ?_
  unfold awardedToRivals
  rw [awarded_eq_zero fun f hf => finished f hf _ _ seat.rivals_ne.2.2]
  rfl

/-! ## A fixture that was awarded -/

/-- The end of a season in which the last fixture between two of the teams was awarded. -/
def awardedEnd : Snapshot where
  table := [.ofGames "Liverpool" 38 80, .ofGames "Tottenham" 38 75, .ofGames "Chelsea" 38 72]
  fixtures := [.onDay 1 "Liverpool" "Chelsea" .finished, .onDay 2 "Tottenham" "Chelsea" .awarded]

theorem isDone_awardedEnd :
    ((awardedEnd.provider (.midnight 4)).settle Config.plain.rules Config.plain.assignments).isDone
      = true := by
  decide +kernel

theorem seasonOver_awardedEnd : SeasonOver awardedEnd (.midnight 4) Config.plain where
  played seat standing h := by
    have all : ∀ seat, (leagueEntry awardedEnd.table (Config.plain.teamOf seat)).toOption.all
        (fun row => Config.plain.rules.seasonLength ≤ row.playedGames) = true := by decide +kernel
    have one := all seat
    rw [h] at one
    exact of_decide_eq_true one
  idle seat latest h := by
    have all : ∀ seat,
        (latestMatch awardedEnd.fixtures (Config.plain.teamOf seat) (.midnight 4)).toOption.all
          (fun f => !f.status.isLive) = true := by decide +kernel
    have one := all seat
    rw [h] at one
    simpa [Except.toOption] using one
  decided := by decide +kernel

theorem awardedToRivals_awardedEnd : awardedToRivals awardedEnd Config.plain .first = 1 := by
  decide +kernel

theorem cases_of_awardedEnd :
    ∃ rows, (awardedEnd.provider (.midnight 4)).settle Config.plain.rules Config.plain.assignments
        = .done rows ∧ SeasonOver awardedEnd (.midnight 4) Config.plain ∧
      ∃ rowOf : Seat → SettlementRow, rows.Perm (Seat.all.map rowOf) ∧
        (rowOf .first).bestCase.toInt = (rowOf .first).balanceAmount.toInt - 10 ∧
        (rowOf .first).worstCase.toInt = (rowOf .first).balanceAmount.toInt + 15 ∧
        (rowOf .second).bestCase = (rowOf .second).balanceAmount := by
  obtain ⟨rows, h⟩ := Run.exists_of_isDone isDone_awardedEnd
  obtain ⟨rowOf, perm, _, cases, collapsed, _⟩ := cases_of_seasonOver h seasonOver_awardedEnd
  have first := cases .first
  rw [awardedToRivals_awardedEnd] at first
  have none : awardedToRivals awardedEnd Config.plain .second = 0 := by decide +kernel
  exact ⟨rows, h, seasonOver_awardedEnd, rowOf, perm, first.1, first.2, (collapsed .second none).1⟩

/-- A result that was awarded is not enough for the cases to collapse. -/
theorem not_collapsed_of_awarded : ¬ ∀ text config, Config.ofText text = .ok config →
    ∀ (snapshot : Snapshot) (now : Instant) (rows : List SettlementRow),
      (snapshot.provider now).settle config.rules config.assignments = .done rows →
      SeasonOver snapshot now config →
      ∀ r ∈ rows, r.bestCase = r.balanceAmount ∧ r.worstCase = r.balanceAmount := by
  intro collapse
  obtain ⟨rows, h⟩ := Run.exists_of_isDone isDone_awardedEnd
  obtain ⟨rowOf, perm, all⟩ := seasonOver_awardedEnd.exists_rowOf h
  have mem : rowOf .first ∈ rows :=
    perm.mem_iff.mpr (List.mem_map.mpr ⟨.first, Seat.mem_all _, rfl⟩)
  obtain ⟨best, _⟩ := collapse _ _ Config.ofText_plainText _ _ _ h seasonOver_awardedEnd _ mem
  -- the awarded fixture is between the rivals of the first party
  obtain ⟨_, apart, _⟩ := all .first
  rw [awardedToRivals_awardedEnd, best] at apart
  have stake : Config.plain.rules.stakePerPoint.toInt = 5 := rfl
  omega

end Snapshot

end LeagueWager
