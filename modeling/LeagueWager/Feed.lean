import LeagueWager.Config
import LeagueWager.Http.Exchange
import LeagueWager.Records

/-!
# The feed

A feed holds the tables and the fixtures of a competition, each under an address of its own. A
fetch asks for one of them and decodes what comes; whatever goes wrong on the way names the
address.

* `pick_of_total`: of several tables the first that counts all games is taken.
-/

namespace LeagueWager

/-- A feed, as it is asked. -/
structure Feed where
  /-- What all its addresses start with. -/
  base : String
  competition : String
  /-- The key that every request carries. -/
  key : Option String
  /-- What was fetched is used again. -/
  keeps : Bool
  deriving DecidableEq, Repr

namespace Feed

/-- The text without slashes at its end. -/
def trimSlashes (s : String) : String :=
  String.ofList (s.toList.reverse.dropWhile (· == '/')).reverse

/-- The name under which the feed is asked. -/
def agent : String := "bet-standings/0.1.0"

/-- The feed of these settings. -/
def ofSettings (settings : ProviderSettings) (key : Option String) : Feed where
  base := trimSlashes settings.baseUrl
  competition := settings.competition
  key := key
  keeps := settings.cacheSeconds ≠ 0

/-- The two resources of a feed. -/
inductive Resource where
  | tables
  | fixtures
  deriving DecidableEq, Repr

/-- The last step of a resource's address. -/
def Resource.step : Resource → String
  | .tables => "standings"
  | .fixtures => "matches"

/-- The address of a resource. -/
def address (feed : Feed) (resource : Resource) : String :=
  s!"{feed.base}/competitions/{feed.competition}/{resource.step}"

/-- The key may stand in a request: no byte of it is a control character, tabs apart. -/
def isLegalKey (key : String) : Bool :=
  key.toList.all fun c => c == '\t' || (32 ≤ c.toNat && c.toNat != 127)

/-- Why a request cannot be made, with the address if it is to be named. -/
def fault? (feed : Feed) (place : Address) : Option String :=
  let named := s!"builder error for url ({place.render})"
  if !place.hasHost then some named
  else if !feed.key.all isLegalKey then some "builder error"
  else if !place.isAskable then some named
  else none

/-- The request for an address, or why it cannot be made. -/
def request (feed : Feed) (address : String) : Except String Http.Request :=
  match Address.ofText address with
  | none => .error "builder error"
  | some place =>
    let place := place.withoutUser
    match feed.fault? place with
    | some fault => .error fault
    | none => .ok ⟨place, feed.key⟩

/-- How often a request may be sent elsewhere. -/
def mostRedirects : Nat := 10

/-- The text that is found, or what is reported behind the address. -/
def textOf (reading : Http.Reading) (outcome : Http.Outcome) : Except String String :=
  match outcome with
  | .unanswered place => .error s!": error sending request for url ({place.render})"
  | .barred place => .error s!": builder error for url ({place.render})"
  | .lost place => .error s!": error following redirect for url ({place.render})"
  | .page reply =>
    if !Http.isSuccess reply.status then .error s!" returned {Http.statusText reply.status}"
    else if !reply.isWhole then .error ": error decoding response body"
    else .ok (reading.textOf reply)

/-- The text under an address, and the line to the server behind the fetch. -/
def fetchText {σ : Type} (feed : Feed) (server : Http.Server σ) (address : String)
    (line : Http.Line σ) : Except ReadError String × Http.Line σ :=
  match feed.request address with
  | .error fault => (.error (.unavailable s!"{address}: {fault}"), line)
  | .ok request =>
    let (outcome, line) := server.get mostRedirects line request
    match textOf server.toReading outcome with
    | .ok text => (.ok text, line)
    | .error fault => (.error (.unavailable (address ++ fault)), line)

/-! ## What the resources hold -/

/-- A table of the feed. -/
structure Table where
  /-- Which games it counts. -/
  kind : String
  rows : List Standing
  deriving DecidableEq, Repr

/-- A table, read from a JSON text. -/
def table : Json.Decoder Table :=
  Json.record "Standing" <| (Shape.make Table.mk)
    |>.field "type" Json.text .required
    |>.field "table" (Json.list Records.standing) (.default [])

/-- All tables. -/
def tables : Json.Decoder (List Table) :=
  Json.record "StandingsResponse" <| (Shape.make id)
    |>.field "standings" (Json.list table) .required

/-- All fixtures. -/
def fixtures : Json.Decoder (List Fixture) :=
  Json.record "MatchesResponse" <| (Shape.make id)
    |>.field "matches" (Json.list Records.fixture) (.default [])

/-- The kind of the table that counts all games. -/
def totalKind : String := "TOTAL"

/-- The rows of the first table that counts all games. -/
def pick (tables : List Table) : Except ReadError (List Standing) :=
  match tables.find? (·.kind == totalKind) with
  | some table => .ok table.rows
  | none => .error (.undecodable "standings payload has no TOTAL table")

/-- The value that a text holds. -/
def decoded {α : Type} (read : Json.Decoder α) (text : String) : Except ReadError α :=
  match Json.decode read text with
  | .ok a => .ok a
  | .error e => .error (.undecodable e.message)

/-- The rows that the text of the tables gives. -/
def rowsOf (text : String) : Except ReadError (List Standing) := do
  pick (← decoded tables text)

/-- The fixtures that the text of the fixtures gives. -/
def fixturesOf (text : String) : Except ReadError (List Fixture) := decoded fixtures text

/-- Fetches the league table. -/
def fetchRows {σ : Type} (feed : Feed) (server : Http.Server σ) (line : Http.Line σ) :
    Except ReadError (List Standing) × Http.Line σ :=
  let (text, line) := feed.fetchText server (feed.address .tables) line
  (text.bind rowsOf, line)

/-- Fetches the fixtures. -/
def fetchFixtures {σ : Type} (feed : Feed) (server : Http.Server σ) (line : Http.Line σ) :
    Except ReadError (List Fixture) × Http.Line σ :=
  let (text, line) := feed.fetchText server (feed.address .fixtures) line
  (text.bind fixturesOf, line)

theorem fetchRows_fst {σ : Type} (feed : Feed) (server : Http.Server σ) (line : Http.Line σ) :
    (feed.fetchRows server line).1 =
      (feed.fetchText server (feed.address .tables) line).1.bind rowsOf := by
  unfold fetchRows
  dsimp only

theorem fetchFixtures_fst {σ : Type} (feed : Feed) (server : Http.Server σ) (line : Http.Line σ) :
    (feed.fetchFixtures server line).1 =
      (feed.fetchText server (feed.address .fixtures) line).1.bind fixturesOf := by
  unfold fetchFixtures
  dsimp only

theorem pick_of_total {before after : List Table} {table : Table}
    (h : ∀ t ∈ before, t.kind ≠ totalKind) (ht : table.kind = totalKind) :
    pick (before ++ table :: after) = .ok table.rows := by
  have hb : before.find? (fun t => t.kind == totalKind) = none := by
    rw [List.find?_eq_none]
    intro t hm
    simp [h t hm]
  simp [pick, List.find?_append, hb, ht]

end Feed

end LeagueWager
