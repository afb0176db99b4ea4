import LeagueWager.Feed
import LeagueWager.Reads

/-!
# Reading the feed

What was fetched is kept, and later reads use it instead of a fetch of their own; a failure is not
kept. Reads of one resource come one after the other: each waits for the fetch before it.
-/

namespace LeagueWager.Feed

/-- What is kept of a feed, and the line to its server. -/
structure State (σ : Type) where
  rows : Option (List Standing)
  fixtures : Option (List Fixture)
  line : Http.Line σ

/-- Nothing is kept, and nothing was sent. -/
def State.fresh {σ : Type} (state : σ) : State σ := ⟨none, none, ⟨state, []⟩⟩

/-- What a read uses instead of a fetch. -/
def usable {α : Type} (keeps : Bool) (kept : Option α) : Option α := if keeps then kept else none

/-- What is kept after a fetch; a failure leaves what is there, and the next read asks again. -/
def keptAfter {α : Type} (kept : Option α) : Except ReadError α → Option α
  | .ok a => some a
  | .error _ => kept

/-- A read of one resource: what is kept, if it may be used again, or what a fetch brings. -/
def reuse {α τ : Type} (keeps : Bool) (fetch : τ → Except ReadError α × τ) (kept : Option α)
    (line : τ) : Except ReadError α × Option α × τ :=
  match usable keeps kept with
  | some a => (.ok a, kept, line)
  | none =>
    let (brought, line) := fetch line
    (brought, keptAfter kept brought, line)

variable {σ : Type}

/-- The league table. -/
def readRows (feed : Feed) (server : Http.Server σ) (s : State σ) :
    Except ReadError (List Standing) × State σ :=
  let (rows, kept, line) := reuse feed.keeps (feed.fetchRows server) s.rows s.line
  (rows, { s with rows := kept, line := line })

/-- The fixtures. -/
def readFixtures (feed : Feed) (server : Http.Server σ) (s : State σ) :
    Except ReadError (List Fixture) × State σ :=
  let (fixtures, kept, line) := reuse feed.keeps (feed.fetchFixtures server) s.fixtures s.line
  (fixtures, { s with fixtures := kept, line := line })

/-- The team's row of the league table. -/
def leagueEntry (feed : Feed) (server : Http.Server σ) (team : String) (s : State σ) :
    Read Standing × State σ :=
  let (rows, s) := feed.readRows server s
  (.ofExcept (rows.bind fun rows => Snapshot.leagueEntry rows team), s)

/-- Every fixture between two teams. -/
def headToHead (feed : Feed) (server : Http.Server σ) (a b : String) (s : State σ) :
    Read (List Fixture) × State σ :=
  let (fixtures, s) := feed.readFixtures server s
  (.ofExcept (fixtures.map fun fixtures => Snapshot.headToHead fixtures a b), s)

/-- The team's latest fixture, as of `now`. -/
def latestMatch (feed : Feed) (server : Http.Server σ) (now : Instant) (team : String)
    (s : State σ) : Read Fixture × State σ :=
  let (fixtures, s) := feed.readFixtures server s
  (.ofExcept (fixtures.bind fun fixtures => Snapshot.latestMatch fixtures team now), s)

/-- The three reads for one party, one after the other. -/
def reads (feed : Feed) (server : Http.Server σ) (now : Instant) (assignment : Assignment)
    (s : State σ) : Reads × State σ :=
  let (row, s) := feed.leagueEntry server assignment.team s
  let (fixtures, s) :=
    feed.headToHead server assignment.opponents.1 assignment.opponents.2 s
  let (latest, s) := feed.latestMatch server now assignment.team s
  (⟨row, fixtures, latest⟩, s)

/-- The projection of one assignment. -/
def project (feed : Feed) (server : Http.Server σ) (now : Instant) (rules : Rules)
    (assignment : Assignment) (s : State σ) : Run Projection × State σ :=
  let (reads, s) := feed.reads server now assignment s
  (reads.project rules assignment, s)

/-- The settlement of three assignments. -/
def settle (feed : Feed) (server : Http.Server σ) (now : Instant) (rules : Rules)
    (assignments : Trio Assignment) (s : State σ) : Run (List SettlementRow) × State σ :=
  let (first, s) := feed.reads server now assignments.first s
  let (second, s) := feed.reads server now assignments.second s
  let (third, s) := feed.reads server now assignments.third s
  (Reads.settle rules assignments ⟨first, second, third⟩, s)

end LeagueWager.Feed
