import LeagueWager.Proofs.Clubs
import LeagueWager.Proofs.Ends
import LeagueWager.Proofs.Money
import LeagueWager.Snapshot

/-!
# What rows are made of

A settlement that returns rows has read three values for each party, has built a projection of each
from its own three, and has made one row for each from the projections of all. The lemmas here
follow rows back to the reads, so that what is proved of rows never opens the settlement again.

* `Settlement.Told.of_row`, `Settlement.Prospects.of_row`: what a row says beyond the amounts;
* `Reads.exists_makes`: the rows of a settlement that is done;
* `Course.Reachable.settle_eq`: no order of the tasks comes to other rows;
* `Snapshot.exists_of_builds`: what a party's projection is built from, if a snapshot is read.
-/

namespace LeagueWager

/-! ## One row -/

namespace Settlement

open Checked

variable {rules : Rules} {own a b : Projection} {r : SettlementRow}

/-- What a row tells of its own party alone. -/
structure Told (own : Projection) (r : SettlementRow) : Prop where
  teamName : r.teamName = Text.lower own.teamName
  playerName : r.playerName = own.playerName
  played : r.played = own.matchesPlayed
  balance : r.balance = own.playerName ++ "'s Balance"
  live : r.live = own.isLive
  homeTeam : r.homeTeam = own.liveMatch.map (·.homeTeam)
  awayTeam : r.awayTeam = own.liveMatch.map (·.awayTeam)
  homeTeamScore : r.homeTeamScore = own.liveMatch.map (·.homeScore)
  awayTeamScore : r.awayTeamScore = own.liveMatch.map (·.awayScore)

/-- What a row makes of the rest of the season. -/
structure Prospects (rules : Rules) (own a b : Projection) (r : SettlementRow) : Prop where
  bestCase : Settlement.bestCase rules own a b = .ok r.bestCase
  worstCase : Settlement.worstCase rules own a b = .ok r.worstCase

theorem told_and_prospects (h : row rules own a b = .ok r) :
    Told own r ∧ Prospects rules own a b r := by
  unfold row at h
  -- every figure that can overflow, in the order in which they are found
  obtain ⟨⟨directionA, amountA⟩, _, h⟩ := bind_eq_ok_iff.mp h
  obtain ⟨⟨directionB, amountB⟩, _, h⟩ := bind_eq_ok_iff.mp h
  obtain ⟨best, hbest, h⟩ := bind_eq_ok_iff.mp h
  obtain ⟨worst, hworst, h⟩ := bind_eq_ok_iff.mp h
  obtain ⟨net, _, h⟩ := bind_eq_ok_iff.mp h
  cases h
  exact ⟨⟨rfl, rfl, rfl, rfl, rfl, rfl, rfl, rfl, rfl⟩, hbest, hworst⟩

theorem Told.of_row (h : row rules own a b = .ok r) : Told own r := (told_and_prospects h).1

theorem Prospects.of_row (h : row rules own a b = .ok r) : Prospects rules own a b r :=
  (told_and_prospects h).2

end Settlement

/-! ## From rows back to reads -/

/-- The run ends with a value. -/
def Run.isDone {α : Type} : Run α → Bool
  | .done _ => true
  | .failed _ _ => false
  | .overflow _ => false

theorem Run.exists_of_isDone {α : Type} {run : Run α} (h : run.isDone = true) :
    ∃ value, run = .done value := by
  cases run with
  | done value => exact ⟨value, rfl⟩
  | failed first others => cases h
  | overflow cause => cases h

section

variable {rules : Rules} {assignments : Trio Assignment} {reads : Trio Reads}
variable {rows : List SettlementRow}

/-- The parties' reads build the projections from which these rows are made. -/
def Reads.Makes (rules : Rules) (assignments : Trio Assignment) (reads : Trio Reads)
    (rowOf : Seat → SettlementRow) : Prop :=
  ∃ ps : Trio Projection,
    (∀ seat, (reads.get seat).Builds rules (assignments.get seat) (ps.get seat)) ∧
      Settlement.RowsOf rules ps rowOf

/-- **A settlement that is done has ranked the rows that its reads make.** -/
theorem Reads.exists_makes (h : settle rules assignments reads = .done rows) :
    ∃ rowOf, Makes rules assignments reads rowOf ∧
      rows = Settlement.ranked (Seat.all.map rowOf) := by
  unfold settle at h
  cases hp : parties rules assignments reads with
  | failed first others =>
    -- without all three projections there are no rows
    rw [hp] at h
    cases h
  | all value =>
    obtain ⟨ps, rfl⟩ : ∃ ps : Trio Projection, value = (ps.first, ps.second, ps.third) :=
      ⟨⟨value.1, value.2.1, value.2.2⟩, rfl⟩
    have builds := Course.parties_eq_all_iff.mp hp
    rw [hp] at h
    unfold Gathered.run at h
    dsimp only at h
    split at h
    · rename_i made hmade
      cases h
      obtain ⟨rowOf, own, rfl⟩ := Settlement.exists_rowsOf hmade
      exact ⟨rowOf, ⟨ps, builds, own⟩, rfl⟩
    · cases h

/-- An order of the tasks that comes to rows comes to those of the settlement. -/
theorem Course.Reachable.settle_eq {returns : ReadOf → Prop} {c : Course}
    (h : Reachable rules assignments reads returns c) {x : Except Failure (Trio Projection)}
    (hx : c.ended = some x) (hr : Course.rows rules x = .done rows) :
    Reads.settle rules assignments reads = .done rows := by
  cases x with
  | ok ps =>
    unfold Reads.settle
    rw [h.parties_eq hx]
    exact hr
  | error f => cases hr

end

/-! ## Reads of a provider -/

/-- What the parties read from a provider. It may answer one party otherwise than another; a provider
that always says the same answers each party alike. -/
def Config.readsFrom (config : Config) (answers : Seat → Provider) : Trio Reads where
  first := .ofProvider (answers .first) config.assignments.first
  second := .ofProvider (answers .second) config.assignments.second
  third := .ofProvider (answers .third) config.assignments.third

theorem Config.get_readsFrom {config : Config} {answers : Seat → Provider} (seat : Seat) :
    (config.readsFrom answers).get seat
      = .ofProvider (answers seat) (config.assignments.get seat) := by
  cases seat <;> rfl

theorem Seat.rivals_ne : ∀ seat : Seat,
    seat ≠ seat.rivals.1 ∧ seat ≠ seat.rivals.2 ∧ seat.rivals.1 ≠ seat.rivals.2 := by
  decide

theorem Trio.get_map {α β : Type} (f : α → β) (trio : Trio α) (seat : Seat) :
    (trio.map f).get seat = f (trio.get seat) := by
  cases seat <;> rfl

/-- A party's rivals are the other two parties' teams, in order. -/
theorem Config.assignments_get (config : Config) (seat : Seat) :
    config.assignments.get seat = ⟨config.teamOf seat, (config.parties.get seat).player,
      config.teamOf seat.rivals.1, config.teamOf seat.rivals.2⟩ := by
  cases seat <;> rfl

theorem Read.ofExcept_eq_value_iff {α : Type} {x : Except ReadError α} {a : α} :
    Read.ofExcept x = .value a ↔ x = .ok a := by
  cases x <;> simp [Read.ofExcept]

/-- A projection that is built from a snapshot is built from the team's row, its latest fixture, and
the fixtures between its rivals. -/
theorem Snapshot.exists_of_builds {snapshot : Snapshot} {now : Instant} {rules : Rules}
    {assignment : Assignment} {p : Projection}
    (h : (Reads.ofProvider (snapshot.provider now) assignment).Builds rules assignment p) :
    ∃ standing latest,
      leagueEntry snapshot.table assignment.team = .ok standing ∧
        latestMatch snapshot.fixtures assignment.team now = .ok latest ∧
        Projection.build rules assignment standing
          (headToHead snapshot.fixtures assignment.opponents.1 assignment.opponents.2) latest
            = .ok p := by
  obtain ⟨standing, fixtures, latest, ⟨hs, hf, hl⟩, hb⟩ := h
  -- the fixtures of a snapshot are always there, be there none between the two
  cases hf
  exact ⟨standing, latest, Read.ofExcept_eq_value_iff.mp hs, Read.ofExcept_eq_value_iff.mp hl, hb⟩

/-! ## A configuration and its season -/

/-- A row of the table of which only games and points matter. -/
def Standing.ofGames (team : String) (playedGames points : Int32) : Standing :=
  ⟨1, ⟨0, team, team, ""⟩, playedGames, 0, 0, 0, points, 0, 0, 0⟩

/-- The moment at which a day begins. -/
def Instant.midnight (day : Int) : Instant := ⟨day * 86400, 0⟩

/-- A fixture that kicks off on the given day, with the home side in front. -/
def Fixture.onDay (day : Int) (home away : String) (status : FixtureStatus) : Fixture where
  id := 0
  kickOff := .midnight day
  status := status
  matchday := none
  homeTeam := ⟨0, home, home, ""⟩
  awayTeam := ⟨0, away, away, ""⟩
  score := ⟨⟨some 3, some 0⟩, .unknown⟩

/-- The middle of a season: two teams of the wager are level, one of them is playing, and there is
one more match between rivals to come. -/
def Snapshot.midSeason : Snapshot where
  table := [.ofGames "Liverpool" 28 40, .ofGames "Chelsea" 29 40, .ofGames "Tottenham" 28 35]
  fixtures := [.onDay 1 "Liverpool" "Everton" .finished, .onDay 2 "Tottenham" "Arsenal" .finished,
    .onDay 3 "Chelsea" "Everton" .inPlay, .onDay 9 "Tottenham" "Chelsea" .timed]

namespace Config

/-- A text with three parties and nothing else that could be left out. -/
def plainText : String :=
  "server.port = 8080\n" ++ "provider.kind = \"football_data\"\n" ++
  "[[wager]]\nteam = \"Liverpool\"\nplayer = \"Steve\"\n" ++
  "[[wager]]\nteam = \"Chelsea\"\nplayer = \"Tim\"\n" ++
  "[[wager]]\nteam = \"Tottenham\"\nplayer = \"Thommo\"\n"

/-- The configuration that it gives. -/
def plain : Config where
  port := 8080
  rules := .standard
  provider := ⟨.feed, "https://api.football-data.org/v4", "PL", none, 3, 15, none⟩
  parties := ⟨⟨"Liverpool", "Steve"⟩, ⟨"Chelsea", "Tim"⟩, ⟨"Tottenham", "Thommo"⟩⟩

theorem ofText_plainText : ofText plainText = .ok plain :=
  ofText_eq_ok_of_toOption (by decide +kernel)

end Config

end LeagueWager
