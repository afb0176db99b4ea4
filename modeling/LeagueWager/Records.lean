import LeagueWager.Json.Decode
import LeagueWager.Json.Value
import LeagueWager.Date.Writer
import LeagueWager.Settlement
import LeagueWager.Snapshot

/-!
# The written records

How each record stands in JSON: its fields by the names of the league's data, in the order of
declaration, with what holds when one is missing; and how it is written, every field, null where
there is nothing.
-/

namespace LeagueWager.Records

open Json

/-- A description of a record's fields, read from a JSON text. -/
abbrev Fields (ρ : Type) := Shape Tree DecodeError ρ

/-- A status by its code. -/
def status : Decoder FixtureStatus := oneOf (FixtureStatus.all.map fun s => (s.code, s))

/-- The written status. -/
def writeStatus (status : FixtureStatus) : Value := .text status.code

/-- The fields of a team. -/
def teamFields : Fields Team :=
  (Shape.make Team.mk)
    |>.field "id" natural64 (.default 0)
    |>.field "name" text (.default "")
    |>.field "shortName" text .required
    |>.field "tla" text (.default "")

/-- A team. -/
def team : Decoder Team := record "TeamRef" teamFields

/-- The written team. -/
def writeTeam (team : Team) : Value := .object [
  ("id", .whole team.id.toNat),
  ("name", .text team.name),
  ("shortName", .text team.shortName),
  ("tla", .text team.code)]

/-- The fields of a pair of goals. -/
def goalsFields : Fields Goals :=
  (Shape.make Goals.mk)
    |>.field "home" (optional natural32) (.default none)
    |>.field "away" (optional natural32) (.default none)

/-- Goals of each side. -/
def goals : Decoder Goals := record "ScoreLine" goalsFields

/-- A written number of goals. -/
def writeCount (n : UInt32) : Value := .whole n.toNat

/-- The written goals. -/
def writeGoals (goals : Goals) : Value := .object [
  ("home", .ofOption writeCount goals.home),
  ("away", .ofOption writeCount goals.away)]

/-- The fields of a score. -/
def scoreFields : Fields Score :=
  (Shape.make Score.mk)
    |>.field "fullTime" goals (.default .unknown)
    |>.field "halfTime" goals (.default .unknown)

/-- A score. -/
def score : Decoder Score := record "Score" scoreFields

/-- The written score. -/
def writeScore (score : Score) : Value := .object [
  ("fullTime", writeGoals score.fullTime),
  ("halfTime", writeGoals score.halfTime)]

/-- The fields of a fixture. -/
def fixtureFields : Fields Fixture :=
  (Shape.make Fixture.mk)
    |>.field "id" natural64 (.default 0)
    |>.field "utcDate" instant .required
    |>.field "status" status .required
    |>.field "matchday" (optional natural32) (.default none)
    |>.field "homeTeam" team .required
    |>.field "awayTeam" team .required
    |>.field "score" score (.default .unknown)

/-- A fixture. -/
def fixture : Decoder Fixture := record "MatchOutcome" fixtureFields

/-- The written fixture. -/
def writeFixture (fixture : Fixture) : Value := .object [
  ("id", .whole fixture.id.toNat),
  ("utcDate", .text fixture.kickOff.toText),
  ("status", writeStatus fixture.status),
  ("matchday", .ofOption writeCount fixture.matchday),
  ("homeTeam", writeTeam fixture.homeTeam),
  ("awayTeam", writeTeam fixture.awayTeam),
  ("score", writeScore fixture.score)]

/-- The fields of a row of the table. -/
def standingFields : Fields Standing :=
  (Shape.make Standing.mk)
    |>.field "position" natural32 .required
    |>.field "team" team .required
    |>.field "playedGames" integer32 .required
    |>.field "won" integer32 (.default 0)
    |>.field "draw" integer32 (.default 0)
    |>.field "lost" integer32 (.default 0)
    |>.field "points" integer32 .required
    |>.field "goalsFor" integer32 (.default 0)
    |>.field "goalsAgainst" integer32 (.default 0)
    |>.field "goalDifference" integer32 (.default 0)

/-- A row of the table. -/
def standing : Decoder Standing := record "LeagueEntry" standingFields

/-- A written number with sign. -/
def writeInteger (n : Int32) : Value := .whole n.toInt

/-- The written row of the table. -/
def writeStanding (row : Standing) : Value := .object [
  ("position", writeCount row.position),
  ("team", writeTeam row.team),
  ("playedGames", writeInteger row.playedGames),
  ("won", writeInteger row.won),
  ("draw", writeInteger row.draw),
  ("lost", writeInteger row.lost),
  ("points", writeInteger row.points),
  ("goalsFor", writeInteger row.goalsFor),
  ("goalsAgainst", writeInteger row.goalsAgainst),
  ("goalDifference", writeInteger row.goalDifference)]

/-- The fields of a live match. -/
def liveMatchFields : Fields LiveMatch :=
  (Shape.make LiveMatch.mk)
    |>.field "home_team" text .required
    |>.field "away_team" text .required
    |>.field "home_score" natural32 .required
    |>.field "away_score" natural32 .required

/-- A live match. -/
def liveMatch : Decoder LiveMatch := record "LiveMatch" liveMatchFields

/-- The written live match. -/
def writeLiveMatch (live : LiveMatch) : Value := .object [
  ("home_team", .text live.homeTeam),
  ("away_team", .text live.awayTeam),
  ("home_score", writeCount live.homeScore),
  ("away_score", writeCount live.awayScore)]

/-- The fields of an assignment. -/
def assignmentFields : Fields Assignment :=
  (Shape.make Assignment.mk)
    |>.field "team" text .required
    |>.field "player" text .required
    |>.field "opponents" (pair text) .required

/-- An assignment. -/
def assignment : Decoder Assignment := record "TeamAssignment" assignmentFields

/-- The written assignment. -/
def writeAssignment (assignment : Assignment) : Value := .object [
  ("team", .text assignment.team),
  ("player", .text assignment.player),
  ("opponents", .list [.text assignment.opponents.1, .text assignment.opponents.2])]

/-- The fields of a settlement row. -/
def settlementRowFields : Fields SettlementRow :=
  (Shape.make SettlementRow.mk)
    |>.field "team_name" text .required
    |>.field "name" text .required
    |>.field "played" integer32 .required
    |>.field "points" integer32 .required
    |>.field "owea" text .required
    |>.field "amounta" integer32 .required
    |>.field "oweb" text .required
    |>.field "amountb" integer32 .required
    |>.field "best_case" integer32 .required
    |>.field "worst_case" integer32 .required
    |>.field "balance" text .required
    |>.field "balance_amount" integer32 .required
    |>.field "live" bool .required
    |>.field "home_team" (optional text) (.named none)
    |>.field "away_team" (optional text) (.named none)
    |>.field "home_team_score" (optional natural32) (.named none)
    |>.field "away_team_score" (optional natural32) (.named none)

/-- A settlement row. -/
def settlementRow : Decoder SettlementRow := record "SettlementEntry" settlementRowFields

/-- The written settlement row. -/
def writeSettlementRow (row : SettlementRow) : Value := .object [
  ("team_name", .text row.teamName),
  ("name", .text row.playerName),
  ("played", writeInteger row.played),
  ("points", writeInteger row.points),
  ("owea", .text row.oweA),
  ("amounta", writeInteger row.amountA),
  ("oweb", .text row.oweB),
  ("amountb", writeInteger row.amountB),
  ("best_case", writeInteger row.bestCase),
  ("worst_case", writeInteger row.worstCase),
  ("balance", .text row.balance),
  ("balance_amount", writeInteger row.balanceAmount),
  ("live", .bool row.live),
  ("home_team", .ofOption .text row.homeTeam),
  ("away_team", .ofOption .text row.awayTeam),
  ("home_team_score", .ofOption writeCount row.homeTeamScore),
  ("away_team_score", .ofOption writeCount row.awayTeamScore)]

/-- The fields of a snapshot. -/
def snapshotFields : Fields Snapshot :=
  (Shape.make Snapshot.mk)
    |>.field "table" (list standing) (.default [])
    |>.field "matches" (list fixture) (.default [])

/-- A snapshot. -/
def snapshot : Decoder Snapshot := record "Snapshot" snapshotFields

/-- The written snapshot. -/
def writeSnapshot (snapshot : Snapshot) : Value := .object [
  ("table", .list (snapshot.table.map writeStanding)),
  ("matches", .list (snapshot.fixtures.map writeFixture))]

end LeagueWager.Records
