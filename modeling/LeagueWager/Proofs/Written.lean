import LeagueWager.Feed
import LeagueWager.Proofs.Decoding
import LeagueWager.Proofs.Moments

/-!
# Written records are recovered

Every record of the league's data is decoded from its written form as itself, as long as fixtures
kick off at instants that a date can name: teams, goals, scores, fixtures, rows of the table, whole
snapshots, and what the feed serves; and so is every record of the wager.

* `recovers_snapshot`: a snapshot with all its rows and fixtures;
* `recovers_settlementRow`: a row of a settlement;
* `recovers_tables`, `recovers_fixtures`: what stands under the feed's two addresses.
-/

namespace LeagueWager

/-! ## The feed's two texts -/

namespace Feed

/-- The written table of a feed. -/
def writeTable (table : Table) : Json.Value := .object [
  ("type", .text table.kind),
  ("table", .list (table.rows.map Records.writeStanding))]

/-- The written tables of a feed. -/
def writeTables (tables : List Table) : Json.Value := .object [
  ("standings", .list (tables.map writeTable))]

/-- The written fixtures of a feed. -/
def writeFixtures (fixtures : List Fixture) : Json.Value := .object [
  ("matches", .list (fixtures.map Records.writeFixture))]

end Feed

namespace Records

open Json

theorem recovers_instant {t : Instant} (h : t.IsDate) : Recovers instant (.text t.toText) t := by
  refine ⟨.text _, ?_⟩
  rw [Value.toTree, instant, Instant.ofText_toText h]

theorem recovers_status (s : FixtureStatus) : Recovers status (writeStatus s) s :=
  ⟨.text _, by cases s <;> rfl⟩

theorem recovers_count (o : Option UInt32) :
    Recovers (optional natural32) (.ofOption writeCount o) o :=
  recovers_optional recovers_natural32 (fun _ h => by cases h) o

theorem recovers_team (t : Team) : Recovers team (writeTeam t) t :=
  recovers_record "TeamRef" <| (Given.make Team.mk)
    |>.field (recovers_natural64 t.id) (by decide)
    |>.field (recovers_text t.name) (by decide)
    |>.field (recovers_text t.shortName) (by decide)
    |>.field (recovers_text t.code) (by decide)

theorem recovers_goals (g : Goals) : Recovers goals (writeGoals g) g :=
  recovers_record "ScoreLine" <| (Given.make Goals.mk)
    |>.field (recovers_count g.home) (by decide)
    |>.field (recovers_count g.away) (by decide)

theorem recovers_score (s : Score) : Recovers score (writeScore s) s :=
  recovers_record "Score" <| (Given.make Score.mk)
    |>.field (recovers_goals s.fullTime) (by decide)
    |>.field (recovers_goals s.halfTime) (by decide)

theorem recovers_fixture {f : Fixture} (h : f.kickOff.IsDate) :
    Recovers fixture (writeFixture f) f :=
  recovers_record "MatchOutcome" <| (Given.make Fixture.mk)
    |>.field (recovers_natural64 f.id) (by decide)
    |>.field (recovers_instant h) (by decide)
    |>.field (recovers_status f.status) (by decide)
    |>.field (recovers_count f.matchday) (by decide)
    |>.field (recovers_team f.homeTeam) (by decide)
    |>.field (recovers_team f.awayTeam) (by decide)
    |>.field (recovers_score f.score) (by decide)

theorem recovers_standing (row : Standing) : Recovers standing (writeStanding row) row :=
  recovers_record "LeagueEntry" <| (Given.make Standing.mk)
    |>.field (recovers_natural32 row.position) (by decide)
    |>.field (recovers_team row.team) (by decide)
    |>.field (recovers_integer32 row.playedGames) (by decide)
    |>.field (recovers_integer32 row.won) (by decide)
    |>.field (recovers_integer32 row.draw) (by decide)
    |>.field (recovers_integer32 row.lost) (by decide)
    |>.field (recovers_integer32 row.points) (by decide)
    |>.field (recovers_integer32 row.goalsFor) (by decide)
    |>.field (recovers_integer32 row.goalsAgainst) (by decide)
    |>.field (recovers_integer32 row.goalDifference) (by decide)

theorem recovers_text? (o : Option String) : Recovers (optional text) (.ofOption .text o) o :=
  recovers_optional recovers_text (fun _ h => by cases h) o

theorem recovers_liveMatch (live : LiveMatch) :
    Recovers liveMatch (writeLiveMatch live) live :=
  recovers_record "LiveMatch" <| (Given.make LiveMatch.mk)
    |>.field (recovers_text live.homeTeam) (by decide)
    |>.field (recovers_text live.awayTeam) (by decide)
    |>.field (recovers_natural32 live.homeScore) (by decide)
    |>.field (recovers_natural32 live.awayScore) (by decide)

theorem recovers_assignment (a : Assignment) : Recovers assignment (writeAssignment a) a :=
  recovers_record "TeamAssignment" <| (Given.make Assignment.mk)
    |>.field (recovers_text a.team) (by decide)
    |>.field (recovers_text a.player) (by decide)
    |>.field (recovers_pair (recovers_text a.opponents.1) (recovers_text a.opponents.2)) (by decide)

/-- **A row of a settlement is recovered from its written form**, whatever it holds. -/
theorem recovers_settlementRow (row : SettlementRow) :
    Recovers settlementRow (writeSettlementRow row) row := by
  have given : Given settlementRowFields _ row := (Given.make SettlementRow.mk)
    |>.field (recovers_text row.teamName) (by decide)
    |>.field (recovers_text row.playerName) (by decide)
    |>.field (recovers_integer32 row.played) (by decide)
    |>.field (recovers_integer32 row.points) (by decide)
    |>.field (recovers_text row.oweA) (by decide)
    |>.field (recovers_integer32 row.amountA) (by decide)
    |>.field (recovers_text row.oweB) (by decide)
    |>.field (recovers_integer32 row.amountB) (by decide)
    |>.field (recovers_integer32 row.bestCase) (by decide)
    |>.field (recovers_integer32 row.worstCase) (by decide)
    |>.field (recovers_text row.balance) (by decide)
    |>.field (recovers_integer32 row.balanceAmount) (by decide)
    |>.field (recovers_bool row.live) (by decide)
    |>.field (recovers_text? row.homeTeam) (by decide)
    |>.field (recovers_text? row.awayTeam) (by decide)
    |>.field (recovers_count row.homeTeamScore) (by decide)
    |>.field (recovers_count row.awayTeamScore) (by decide)
  -- the members are put into one list here: so many fields are too long to be matched as they stand
  simp only [List.nil_append, List.cons_append] at given
  exact recovers_record "SettlementEntry" given

/-- **A snapshot is recovered from its written form.** -/
theorem recovers_snapshot {s : Snapshot} (h : ∀ f ∈ s.fixtures, f.kickOff.IsDate) :
    Recovers snapshot (writeSnapshot s) s :=
  recovers_record "Snapshot" <| (Given.make Snapshot.mk)
    |>.field (recovers_list fun row _ => recovers_standing row) (by decide)
    |>.field (recovers_list fun f hf => recovers_fixture (h f hf)) (by decide)

end Records

namespace Feed

open Json Records

theorem recovers_table (t : Table) : Recovers table (writeTable t) t :=
  recovers_record "Standing" <| (Given.make Table.mk)
    |>.field (recovers_text t.kind) (by decide)
    |>.field (recovers_list fun row _ => recovers_standing row) (by decide)

/-- **The feed's tables are recovered from their written form.** -/
theorem recovers_tables (all : List Table) : Recovers tables (writeTables all) all :=
  recovers_record "StandingsResponse" <| (Given.make id)
    |>.field (recovers_list fun t _ => recovers_table t) (by decide)

/-- **The feed's fixtures are recovered from their written form.** -/
theorem recovers_fixtures {all : List Fixture} (h : ∀ f ∈ all, f.kickOff.IsDate) :
    Recovers fixtures (writeFixtures all) all :=
  recovers_record "MatchesResponse" <| (Given.make id)
    |>.field (recovers_list fun f hf => recovers_fixture (h f hf)) (by decide)

end Feed

end LeagueWager
