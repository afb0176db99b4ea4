import LeagueWager.Proofs.Figures
import LeagueWager.Proofs.Rows

/-!
# Who stands in which column

Who a party's rivals are is said twice: the assignments name their teams, by which the fixtures
between them are asked for, and the rows take their projections by place. Between the two the tasks
of all parties end in any order. A row would look no less plausible if its debts stood against the
wrong player, or if its cases counted the fixtures of another pair.

* `Config.eq_rivals_iff`: which parties hold the teams that an assignment names;
* `Config.columns_of_rows`: what each row says, and of whom, whatever the order of the tasks.
-/

namespace LeagueWager.Config

/-- What the provider says to a party, and the projection that is made of it. -/
structure Account (config : Config) (answers : Seat → Provider) (seat : Seat) (standing : Standing)
    (between : List Fixture) (latest : Fixture) (p : Projection) : Prop where
  leagueEntry : (answers seat).leagueEntry (config.teamOf seat) = .value standing
  /-- The fixtures are those of the pair of rivals that the party's assignment names. -/
  headToHead : (answers seat).headToHead (config.assignments.get seat).opponents.1
    (config.assignments.get seat).opponents.2 = .value between
  latestMatch : (answers seat).latestMatch (config.teamOf seat) = .value latest
  projection : Projection.Exact config.rules (config.assignments.get seat) standing between latest p

/-- What the row of `own` says of `a`, in its first column, and of `b`, in its second. Both cases
take in `count` fixtures between the two. -/
structure Columns (config : Config) (p : Seat → Projection) (rowOf : Seat → SettlementRow)
    (count : Int) (own a b : Seat) : Prop where
  oweA : (rowOf own).oweA = (Direction.between (rowOf own).points (rowOf a).points).label
    (config.parties.get a).player
  amountA : (rowOf own).amountA.toInt
    = config.rules.stakePerPoint.toInt * ((rowOf own).points.toInt - (rowOf a).points.toInt)
  oweB : (rowOf own).oweB = (Direction.between (rowOf own).points (rowOf b).points).label
    (config.parties.get b).player
  amountB : (rowOf own).amountB.toInt
    = config.rules.stakePerPoint.toInt * ((rowOf own).points.toInt - (rowOf b).points.toInt)
  bestCase : (rowOf own).bestCase.toInt = (2 * (p own).adjustedPoints.toInt
    - (p a).adjustedPoints.toInt - (p b).adjustedPoints.toInt
    + 6 * (p own).remainingMatches.toInt - 2 * count) * config.rules.stakePerPoint.toInt
  worstCase : (rowOf own).worstCase.toInt = (2 * (p own).adjustedPoints.toInt
    - (p a).adjustedPoints.toInt - (p b).adjustedPoints.toInt + 3 * count
    - 3 * (p a).remainingMatches.toInt - 3 * (p b).remainingMatches.toInt)
    * config.rules.stakePerPoint.toInt

variable {config : Config} {answers : Seat → Provider}

/-- A party's rivals, by their teams. -/
theorem eq_rivals_iff {text : String} (accepted : ofText text = .ok config) (own seat : Seat) :
    (config.teamOf seat = (config.assignments.get own).opponents.1 ↔ seat = own.rivals.1) ∧
      (config.teamOf seat = (config.assignments.get own).opponents.2 ↔ seat = own.rivals.2) := by
  rw [assignments_get]
  constructor
  · exact ⟨fun same => teamOf_injective accepted same, fun h => h ▸ rfl⟩
  · exact ⟨fun same => teamOf_injective accepted same, fun h => h ▸ rfl⟩

/-- The projection of a party is made of what the provider says to it. -/
theorem exists_account {seat : Seat} {p : Projection}
    (h : ((config.readsFrom answers).get seat).Builds config.rules (config.assignments.get seat) p) :
    ∃ standing between latest, config.Account answers seat standing between latest p := by
  rw [get_readsFrom] at h
  obtain ⟨standing, between, latest, ⟨hs, hb, hl⟩, built⟩ := h
  have team : (config.assignments.get seat).team = config.teamOf seat := by rw [assignments_get]
  refine ⟨standing, between, latest, ?_, hb, ?_, Projection.exact_of_build built⟩
  · rw [← team]
    exact hs
  · rw [← team]
    exact hl

theorem columns_of_rowsOf {ps : Trio Projection} {rowOf : Seat → SettlementRow} {count : Int}
    (own : Settlement.RowsOf config.rules ps rowOf)
    (names : ∀ seat, (ps.get seat).playerName = (config.parties.get seat).player) (seat : Seat)
    (counted : (ps.get seat).remainingHeadToHead.toInt = count) :
    config.Columns ps.get rowOf count seat seat.rivals.1 seat.rivals.2 := by
  have figures := Settlement.Figures.of_row (own seat)
  have prospects := Settlement.Prospects.of_row (own seat)
  have points (seat : Seat) : (rowOf seat).points = (ps.get seat).currentPoints :=
    (Settlement.Figures.of_row (own seat)).points
  subst counted
  -- a label's name comes from the assignment and its figures from the place of the projection
  constructor
  · rw [figures.oweA, names, points, points]
  · rw [figures.amountA, points, points, Int.mul_comm]
  · rw [figures.oweB, names, points, points]
  · rw [figures.amountB, points, points, Int.mul_comm]
  · exact Settlement.toInt_bestCase prospects.bestCase
  · exact Settlement.toInt_worstCase prospects.worstCase

/-- **Assignments and rows agree on who is who.** Whatever the provider says to each party, and in
whatever order the tasks go on: if a settlement of the configuration's assignments comes to rows,
there is one row for each party. In the first column of a party's row stands the player of the one
party whose team its assignment names first, and in the second of the one whose team it names
second, each with the difference of points at the stake; and the fixtures that count in the row's
best and worst case are those that were read for just this pair of teams. -/
theorem columns_of_rows {text : String} (accepted : ofText text = .ok config)
    {returns : ReadOf → Prop} {c : Course} {x : Except Failure (Trio Projection)}
    {rows : List SettlementRow}
    (reached : Course.Reachable config.rules config.assignments (config.readsFrom answers) returns c)
    (ended : c.ended = some x) (done : Course.rows config.rules x = .done rows) :
    ∃ (standing : Seat → Standing) (between : Seat → List Fixture) (latest : Seat → Fixture)
      (p : Seat → Projection) (rowOf : Seat → SettlementRow),
      rows.Perm (Seat.all.map rowOf) ∧
      (∀ own,
        config.Account answers own (standing own) (between own) (latest own) (p own) ∧
        (rowOf own).teamName = Text.lower (config.teamOf own) ∧
        (rowOf own).playerName = (config.parties.get own).player ∧
        (rowOf own).points = (standing own).points) ∧
      ∀ own, ∃ a b,
        (∀ seat, config.teamOf seat = (config.assignments.get own).opponents.1 ↔ seat = a) ∧
        (∀ seat, config.teamOf seat = (config.assignments.get own).opponents.2 ↔ seat = b) ∧
        [own, a, b].Nodup ∧
        config.Columns p rowOf (Int32.ofNat (Projection.unfinished (between own))).toInt own a b := by
  obtain ⟨rowOf, ⟨ps, builds, own⟩, rfl⟩ := Reads.exists_makes (reached.settle_eq ended done)
  -- what was read is that of the projections, whichever task was the last to end
  choose standing between latest account using fun seat => exists_account (builds seat)
  have exact (seat : Seat) := (account seat).projection
  have names (seat : Seat) : (ps.get seat).playerName = (config.parties.get seat).player := by
    rw [(exact seat).playerName, assignments_get]
  refine ⟨standing, between, latest, ps.get, rowOf, Settlement.ranked_perm _, fun seat => ?_,
    fun seat => ⟨seat.rivals.1, seat.rivals.2, fun s => (eq_rivals_iff accepted seat s).1,
      fun s => (eq_rivals_iff accepted seat s).2, ?_, ?_⟩⟩
  · have told := Settlement.Told.of_row (own seat)
    have points := (Settlement.Figures.of_row (own seat)).points
    refine ⟨account seat, ?_, told.playerName.trans (names seat),
      points.trans (exact seat).currentPoints⟩
    rw [told.teamName, (exact seat).teamName, assignments_get]
  · simpa [and_assoc] using seat.rivals_ne
  · exact columns_of_rowsOf own names seat (congrArg Int32.toInt (exact seat).remainingHeadToHead)

/-- In the middle of a season some order of the tasks comes to rows, and the row of the second party
has the first party's player in its first column. -/
theorem columns_of_midSeason :
    ofText plainText = .ok plain ∧ ∃ c x rows,
      Course.Reachable plain.rules plain.assignments
        (plain.readsFrom fun _ => Snapshot.midSeason.provider (.midnight 4)) Course.allReturn c ∧
      c.ended = some x ∧ Course.rows plain.rules x = .done rows ∧
      ∃ rowOf : Seat → SettlementRow, rows.Perm (Seat.all.map rowOf) ∧
        (rowOf .second).oweA
          = (Direction.between (rowOf .second).points (rowOf .first).points).label "Steve" := by
  obtain ⟨rows, h⟩ : ∃ rows, Reads.settle plain.rules plain.assignments
      (plain.readsFrom fun _ => Snapshot.midSeason.provider (.midnight 4)) = .done rows :=
    Run.exists_of_isDone (by decide +kernel)
  have allows : (Reads.settle plain.rules plain.assignments
      (plain.readsFrom fun _ => Snapshot.midSeason.provider (.midnight 4))).Allows (.done rows) := by
    rw [h]
    rfl
  have everyReadReturns : ∀ read, Course.allReturn read := fun _ => trivial
  -- what the settlement comes to, some order of the tasks comes to
  obtain ⟨x, ⟨c, reached, ended⟩, done⟩ :=
    (Course.endsWith_iff_settle everyReadReturns).mpr allows
  obtain ⟨_, _, _, _, rowOf, perm, _, columns⟩ :=
    columns_of_rows ofText_plainText reached ended done
  obtain ⟨a, b, first, _, _, second⟩ := columns .second
  obtain rfl := (first .first).mp rfl
  exact ⟨ofText_plainText, c, x, rows, reached, ended, done, rowOf, perm, second.oweA⟩

end LeagueWager.Config
