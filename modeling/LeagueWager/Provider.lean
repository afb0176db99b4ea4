import LeagueWager.Fixture
import LeagueWager.Standing

/-!
# Providers of league data

The settlement reads three things of a team through a provider: its row of the league table, the
fixtures between two other teams, and its latest fixture. A read returns a value, fails with a
cause, or breaks down.
-/

namespace LeagueWager

/-- The three reads. -/
inductive FetchKind where
  | leagueEntry
  | headToHead
  | latestMatch
  deriving DecidableEq, Repr

/-- The three reads, in order. -/
def FetchKind.all : List FetchKind := [leagueEntry, headToHead, latestMatch]

theorem FetchKind.mem_all (kind : FetchKind) : kind ∈ all := by cases kind <;> decide

/-- The words for a read. -/
def FetchKind.words : FetchKind → String
  | .leagueEntry => "league entry"
  | .headToHead => "head-to-head matches"
  | .latestMatch => "latest match"

/-- Why a read fails. -/
inductive ReadError where
  /-- The source of the data cannot be reached, or refuses. -/
  | unavailable (reason : String)
  /-- There is no such record. -/
  | notFound (kind : FetchKind) (team : String)
  /-- The data do not decode. -/
  | undecodable (reason : String)
  deriving DecidableEq, Repr

/-- What is reported of a read that fails. -/
def ReadError.message : ReadError → String
  | .unavailable reason => s!"Snapshot provider unavailable: {reason}"
  | .notFound kind team => s!"No {kind.words} found for {team}"
  | .undecodable reason => s!"Failed to decode snapshot record: {reason}"

/-- How a read ends. -/
inductive Read (α : Type) where
  | value (value : α)
  | failed (error : ReadError)
  /-- It breaks down with a message. -/
  | crashed (message : String)
  deriving DecidableEq, Repr

/-- A read that cannot break down. -/
def Read.ofExcept {α : Type} : Except ReadError α → Read α
  | .ok a => .value a
  | .error e => .failed e

/-- Read access to a league table and its fixtures. -/
structure Provider where
  /-- The team's row of the table. -/
  leagueEntry : String → Read Standing
  /-- Every fixture between two teams. -/
  headToHead : String → String → Read (List Fixture)
  /-- The team's latest fixture that has kicked off. -/
  latestMatch : String → Read Fixture

end LeagueWager
