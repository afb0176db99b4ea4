import LeagueWager.Feed.History
import LeagueWager.Proofs.Orders
import LeagueWager.Proofs.Reuse
import LeagueWager.Proofs.Written
import LeagueWager.Snapshot.Load

/-!
# A feed and a dump of it

A feed whose server answers with a table and fixtures, and a snapshot that holds the same table and
fixtures, are the same source of data: no read tells them apart, in whatever order the reads come
and whatever was kept before, and so no projection and no settlement does.

The texts may be any that say this. Of the feed's tables, the first that counts all games is the one
that matters; the written forms of the records are such texts.

* `brings_of_serves`: what a server serves is what every fetch brings;
* `told_of_brings`, `Agrees.read`: then every read is answered from it, in every order;
* `feed_mirrors_dump`: from the texts to the settlement.
-/

namespace LeagueWager

namespace Feed

variable {σ ι : Type}

/-! ## What a server serves -/

/-- What a snapshot has of a resource. -/
def Resource.held (snapshot : Snapshot) : (resource : Resource) → resource.Held
  | .tables => snapshot.table
  | .fixtures => snapshot.fixtures

/-- The text can be asked for under the address of the resource, and comes whole and with status
200, whatever the server was asked before. -/
def Serves (feed : Feed) (server : Http.Server σ) (resource : Resource) (text : String) : Prop :=
  ∃ request, feed.request (feed.address resource) = .ok request ∧
    ∀ line, ∃ reply, (server.get mostRedirects line request).1 = .page reply ∧
      reply.status = 200 ∧ reply.isWhole = true ∧ server.textOf reply = text

/-- A server that always replies to the request with a body that reads as the text, and with status
200. -/
theorem serves_of_reply {feed : Feed} {server : Http.Server σ} {resource : Resource}
    {request : Http.Request} (asked : feed.request (feed.address resource) = .ok request)
    {text : String} (reply : Http.Reply) (status : reply.status = 200)
    (whole : reply.isWhole = true) (body : server.textOf reply = text)
    (answers : ∀ state, (server.answer state request).1 = .reply reply) :
    feed.Serves server resource text := by
  refine ⟨request, asked, fun line => ⟨reply, ?_, status, whole, body⟩⟩
  have stays : Http.isRedirect reply.status = false := by
    rw [status]
    rfl
  rw [Http.Server.get_of_stays (answers line.state) (Http.Reading.redirect?_of_stays stays _)]

/-- Every fetch brings what the snapshot has. -/
def Brings (feed : Feed) (server : Http.Server σ) (snapshot : Snapshot) : Prop :=
  ∀ resource line, (feed.fetch server resource line).1 = .ok (resource.held snapshot)

variable {feed : Feed} {server : Http.Server σ} {snapshot : Snapshot}

theorem fetchText_of_serves {resource : Resource} {text : String}
    (h : feed.Serves server resource text) (line : Http.Line σ) :
    (feed.fetchText server (feed.address resource) line).1 = .ok text := by
  obtain ⟨request, asked, answers⟩ := h
  obtain ⟨reply, page, status, whole, text_eq⟩ := answers line
  have found : textOf server.toReading (server.get mostRedirects line request).1 = .ok text := by
    rw [page]
    unfold textOf
    dsimp only
    rw [status, whole, text_eq]
    rfl
  unfold fetchText
  rw [asked]
  dsimp only
  rw [found]

/-- The fetches bring the first table that counts all games, and the fixtures. -/
theorem brings_of_serves {before after : List Table} {tablesText fixturesText : String}
    (first : ∀ t ∈ before, t.kind ≠ totalKind)
    (readTables : Json.decode tables tablesText =
      .ok (before ++ ⟨totalKind, snapshot.table⟩ :: after))
    (readFixtures : Json.decode fixtures fixturesText = .ok snapshot.fixtures)
    (serveTables : feed.Serves server .tables tablesText)
    (serveFixtures : feed.Serves server .fixtures fixturesText) :
    feed.Brings server snapshot := by
  intro resource line
  cases resource with
  | tables =>
    -- the tables in front count other games, so the first that is taken is the one
    show (feed.fetchRows server line).1 = _
    rw [fetchRows_fst, fetchText_of_serves serveTables]
    show rowsOf tablesText = _
    unfold rowsOf decoded
    rw [readTables]
    exact pick_of_total first rfl
  | fixtures =>
    show (feed.fetchFixtures server line).1 = _
    rw [fetchFixtures_fst, fetchText_of_serves serveFixtures]
    show fixturesOf fixturesText = _
    unfold fixturesOf decoded
    rw [readFixtures]
    rfl

/-! ## Reads in any order -/

section

variable {α τ : Type} {keeps : Bool} {mine : ι → Prop} {fetch : τ → Except ReadError α × τ} {a : α}

/-- Nothing is kept but what every fetch brings. -/
def Only (a : α) (kept : Option α) : Prop := ∀ b, kept = some b → b = a

theorem only_none (a : α) : Only a none := by
  intro b h
  cases h

theorem Only.of_usable {kept : Option α} (only : Only a kept) {b : α}
    (found : usable keeps kept = some b) : b = a := by
  unfold usable at found
  split at found
  · exact only b found
  · cases found

theorem Only.keptAfter {kept : Option α} {outcome : Except ReadError α}
    (brought : outcome = .ok a) : Only a (keptAfter kept outcome) := by
  subst brought
  intro b h
  cases h
  rfl

variable (brings : ∀ line, (fetch line).1 = .ok a)

include brings

/-- A read is answered by what every fetch brings, and leaves nothing else. -/
theorem reuse_of_brings (keeps : Bool) {kept : Option α} (only : Only a kept) (line : τ) :
    (reuse keeps fetch kept line).1 = .ok a ∧ Only a (reuse keeps fetch kept line).2.1 := by
  unfold reuse
  split
  · rename_i b found
    exact ⟨by rw [only.of_usable found], only⟩
  · exact ⟨brings line, .keptAfter (brings line)⟩

/-- What an event leaves, and what it tells. -/
theorem Shelf.of_allows {s : Shelf ι α} {line line' : τ} {event : Event ι α}
    (next : Allows keeps mine fetch s line event line') (only : Only a s.kept) :
    Only a (s.after event).kept ∧ ∀ x ∈ event.told?, x.2 = .ok a := by
  cases next with
  | used turn found =>
    refine ⟨only, fun x hx => ?_⟩
    cases hx
    rw [only.of_usable found]
  | began turn missing =>
    exact ⟨only, fun x hx => by cases hx⟩
  | ended holds =>
    refine ⟨.keptAfter (brings line), fun x hx => ?_⟩
    cases hx
    exact brings line

/-- **If every fetch brings the same, every read is answered with it**, in any order. -/
theorem Shelf.told_of_brings {events : List (Event ι α)} (h : Lawful keeps mine fetch events) :
    Only a (replay events).kept ∧ ∀ x ∈ told events, x.2 = .ok a := by
  induction h with
  | nil => exact ⟨only_none a, fun x hx => by cases hx⟩
  | @snoc events event _ _ _ next ih =>
    obtain ⟨only, told⟩ := ih
    obtain ⟨after, answer⟩ := of_allows brings next only
    rw [replay_append]
    refine ⟨after, fun x hx => ?_⟩
    unfold Shelf.told at hx
    rw [List.filterMap_append, List.mem_append] at hx
    rcases hx with hx | hx
    · exact told x hx
    · obtain ⟨_, one, hx⟩ := List.mem_filterMap.mp hx
      rw [List.mem_singleton.mp one] at hx
      exact answer x hx

end

/-- Nothing is kept but what the snapshot has. -/
structure Agrees (snapshot : Snapshot) (s : State σ) : Prop where
  rows : Only snapshot.table s.rows
  fixtures : Only snapshot.fixtures s.fixtures

/-- Every read is answered with what the snapshot has, and leaves nothing else. -/
theorem Agrees.read (brings : feed.Brings server snapshot) {s : State σ} (h : Agrees snapshot s)
    (resource : Resource) :
    (feed.read server resource s).1 = .ok (resource.held snapshot) ∧
      Agrees snapshot (feed.read server resource s).2 := by
  cases resource with
  | tables =>
    obtain ⟨answer, kept⟩ := reuse_of_brings (brings .tables) feed.keeps h.rows s.line
    exact ⟨answer, kept, h.fixtures⟩
  | fixtures =>
    obtain ⟨answer, kept⟩ := reuse_of_brings (brings .fixtures) feed.keeps h.fixtures s.line
    exact ⟨answer, h.rows, kept⟩

/-- A question to the snapshot is answered from what it has of the resource. -/
theorem Query.ofProvider_provider (now : Instant) (query : Query) :
    query.ofProvider (snapshot.provider now) =
      query.answer now (.ok (query.resource.held snapshot)) := by
  cases query <;> rfl

/-- **A question to the feed is answered as by the snapshot.** -/
theorem Agrees.ask (brings : feed.Brings server snapshot) {s : State σ} (h : Agrees snapshot s)
    (now : Instant) (query : Query) :
    (feed.ask server now query s).1 = query.ofProvider (snapshot.provider now) ∧
      Agrees snapshot (feed.ask server now query s).2 := by
  obtain ⟨answer, left⟩ := h.read brings query.resource
  rw [answer_ask]
  dsimp only
  rw [answer, Query.ofProvider_provider]
  exact ⟨rfl, left⟩

theorem Agrees.reads (brings : feed.Brings server snapshot) {s : State σ} (h : Agrees snapshot s)
    (now : Instant) (assignment : Assignment) :
    (feed.reads server now assignment s).1 = Reads.ofProvider (snapshot.provider now) assignment ∧
      Agrees snapshot (feed.reads server now assignment s).2 := by
  unfold Feed.reads
  rw [show feed.leagueEntry server assignment.team =
      feed.ask server now (.leagueEntry assignment.team) from rfl,
    show feed.headToHead server assignment.opponents.1 assignment.opponents.2 =
      feed.ask server now (.headToHead assignment.opponents.1 assignment.opponents.2) from rfl,
    show feed.latestMatch server now assignment.team =
      feed.ask server now (.latestMatch assignment.team) from rfl]
  dsimp only
  -- each read starts from what the one before has left
  obtain ⟨row, h⟩ := h.ask brings now (.leagueEntry assignment.team)
  generalize feed.ask server now (.leagueEntry assignment.team) s = first at *
  obtain ⟨fixtures, h⟩ := h.ask brings now
    (.headToHead assignment.opponents.1 assignment.opponents.2)
  generalize feed.ask server now (.headToHead assignment.opponents.1 assignment.opponents.2)
    first.2 = second at *
  obtain ⟨latest, h⟩ := h.ask brings now (.latestMatch assignment.team)
  generalize feed.ask server now (.latestMatch assignment.team) second.2 = third at *
  refine ⟨?_, h⟩
  rw [row, fixtures, latest]
  rfl

/-- **A projection from the feed is that from the snapshot.** -/
theorem Agrees.project (brings : feed.Brings server snapshot) {s : State σ}
    (h : Agrees snapshot s) (now : Instant) (rules : Rules) (assignment : Assignment) :
    (feed.project server now rules assignment s).1 =
      (snapshot.provider now).project rules assignment := by
  obtain ⟨reads, _⟩ := h.reads brings now assignment
  unfold Feed.project Provider.project
  dsimp only
  rw [reads]

/-- **A settlement from the feed is that from the snapshot.** -/
theorem Agrees.settle (brings : feed.Brings server snapshot) {s : State σ}
    (h : Agrees snapshot s) (now : Instant) (rules : Rules) (assignments : Trio Assignment) :
    (feed.settle server now rules assignments s).1 =
      (snapshot.provider now).settle rules assignments := by
  obtain ⟨first, h⟩ := h.reads brings now assignments.first
  obtain ⟨second, h⟩ := h.reads brings now assignments.second
  obtain ⟨third, _⟩ := h.reads brings now assignments.third
  unfold Feed.settle Provider.settle Trio.map
  dsimp only
  rw [first, second, third]

/-! ## The reads of a settlement, in any order -/

/-- The question that a read of a settlement asks. -/
def questionOf (assignments : Trio Assignment) : ReadOf → Query
  | (seat, .leagueEntry) => .leagueEntry (assignments.get seat).team
  | (seat, .headToHead) =>
    .headToHead (assignments.get seat).opponents.1 (assignments.get seat).opponents.2
  | (seat, .latestMatch) => .latestMatch (assignments.get seat).team

/-- The read was answered so, at some point of the history. -/
def Answered (now : Instant) (history : History ι) (id : ι) (query : Query)
    (read : Read query.Result) : Prop :=
  ∃ outcome, (id, outcome) ∈ Shelf.told (history.events query.resource) ∧
    read = query.answer now outcome

/-- All nine reads of a settlement were answered, and so. -/
structure AllAnswered (assignments : Trio Assignment) (now : Instant) (history : History ReadOf)
    (reads : Trio Reads) : Prop where
  leagueEntry : ∀ seat, Answered now history (seat, .leagueEntry)
    (questionOf assignments (seat, .leagueEntry)) (reads.get seat).leagueEntry
  headToHead : ∀ seat, Answered now history (seat, .headToHead)
    (questionOf assignments (seat, .headToHead)) (reads.get seat).headToHead
  latestMatch : ∀ seat, Answered now history (seat, .latestMatch)
    (questionOf assignments (seat, .latestMatch)) (reads.get seat).latestMatch

namespace Traffic

theorem Recorded.agrees (brings : feed.Brings server snapshot) {wants : ι → Resource} {state : σ}
    {t : Traffic σ ι} {history : History ι} (h : Recorded feed server wants state t history) :
    Agrees snapshot t.state where
  rows := by
    show Only _ (t.shelf .tables).kept
    rw [h.shelf_eq .tables]
    exact (Shelf.told_of_brings (brings .tables) (h.lawful .tables)).1
  fixtures := by
    show Only _ (t.shelf .fixtures).kept
    rw [h.shelf_eq .fixtures]
    exact (Shelf.told_of_brings (brings .fixtures) (h.lawful .fixtures)).1

/-- **Every read that was answered was answered as by the snapshot.** -/
theorem Recorded.answered_eq (brings : feed.Brings server snapshot) {wants : ι → Resource}
    {state : σ} {t : Traffic σ ι} {history : History ι}
    (h : Recorded feed server wants state t history) {now : Instant} {id : ι} {query : Query}
    {read : Read query.Result} (answered : Answered now history id query read) :
    read = query.ofProvider (snapshot.provider now) := by
  obtain ⟨outcome, told, rfl⟩ := answered
  have outcome_eq : outcome = .ok (query.resource.held snapshot) :=
    (Shelf.told_of_brings (brings query.resource) (h.lawful query.resource)).2 _ told
  rw [outcome_eq, Query.ofProvider_provider]

theorem Recorded.reads_eq (brings : feed.Brings server snapshot) {wants : ReadOf → Resource}
    {state : σ} {t : Traffic σ ReadOf} {history : History ReadOf}
    (h : Recorded feed server wants state t history) {now : Instant}
    {assignments : Trio Assignment} {reads : Trio Reads}
    (all : AllAnswered assignments now history reads) :
    reads = assignments.map (Reads.ofProvider (snapshot.provider now)) := by
  have each (seat : Seat) :
      reads.get seat = Reads.ofProvider (snapshot.provider now) (assignments.get seat) := by
    have row := h.answered_eq brings (all.leagueEntry seat)
    have fixtures := h.answered_eq brings (all.headToHead seat)
    have latest := h.answered_eq brings (all.latestMatch seat)
    generalize reads.get seat = read at *
    cases read
    rw [Reads.ofProvider, Reads.mk.injEq]
    exact ⟨row, fixtures, latest⟩
  show (⟨reads.get .first, reads.get .second, reads.get .third⟩ : Trio Reads) = _
  rw [each, each, each]
  rfl

end Traffic

/-- Read at one moment, from an upstream in this state on, the feed cannot be told from the
provider. -/
structure Mirrors (feed : Feed) (server : Http.Server σ) (state : σ) (now : Instant)
    (provider : Provider) : Prop where
  /-- Of any number of reads, in any order, each that was answered has the provider's answer. -/
  answered : ∀ {ι : Type} (wants : ι → Resource) (t : Traffic σ ι) (history : History ι),
    Traffic.Recorded feed server wants state t history →
      ∀ id (query : Query) (read : Read query.Result), Answered now history id query read →
        read = query.ofProvider provider
  /-- Whatever was read before, a read on its own has the provider's answer. -/
  ask : ∀ {ι : Type} (wants : ι → Resource) (t : Traffic σ ι),
    Traffic.Reachable feed server wants state t →
      ∀ query : Query, (feed.ask server now query t.state).1 = query.ofProvider provider
  /-- And a projection has the provider's outcome. -/
  project : ∀ {ι : Type} (wants : ι → Resource) (t : Traffic σ ι),
    Traffic.Reachable feed server wants state t → ∀ rules assignment,
      (feed.project server now rules assignment t.state).1 = provider.project rules assignment
  /-- And a settlement has the provider's rows, or its failures. -/
  settle : ∀ {ι : Type} (wants : ι → Resource) (t : Traffic σ ι),
    Traffic.Reachable feed server wants state t → ∀ rules assignments,
      (feed.settle server now rules assignments t.state).1 = provider.settle rules assignments
  /-- A settlement whose nine reads were answered in any order ends as it may with the provider. -/
  ends : ∀ (assignments : Trio Assignment) (t : Traffic σ ReadOf) (history : History ReadOf),
    Traffic.Recorded feed server (fun read => (questionOf assignments read).resource) state t
        history →
      ∀ reads, AllAnswered assignments now history reads → ∀ rules x,
        Course.EndsWith rules assignments reads Course.allReturn x ↔
          Course.EndsWith rules assignments (assignments.map (Reads.ofProvider provider))
            Course.allReturn x

/-- A feed whose fetches bring what the snapshot has cannot be told from the snapshot. -/
theorem mirrors_of_brings (brings : feed.Brings server snapshot) (state : σ) (now : Instant) :
    feed.Mirrors server state now (snapshot.provider now) where
  answered _ _ _ h _ _ _ answered := h.answered_eq brings answered
  ask _ _ h query := by
    obtain ⟨_, recorded⟩ := Traffic.reachable_iff.mp h
    exact ((recorded.agrees brings).ask brings now query).1
  project _ _ h rules assignment := by
    obtain ⟨_, recorded⟩ := Traffic.reachable_iff.mp h
    exact (recorded.agrees brings).project brings now rules assignment
  settle _ _ h rules assignments := by
    obtain ⟨_, recorded⟩ := Traffic.reachable_iff.mp h
    exact (recorded.agrees brings).settle brings now rules assignments
  ends _ _ _ h reads all _ _ := by
    rw [h.reads_eq brings all]

end Feed

namespace Snapshot

/-- A read of a snapshot has a value, or fails because there is no such record. -/
theorem found_or_notFound (snapshot : Snapshot) (now : Instant) (query : Feed.Query) :
    (∃ a, query.ofProvider (snapshot.provider now) = .value a) ∨
      ∃ kind team, query.ofProvider (snapshot.provider now) = .failed (.notFound kind team) := by
  cases query with
  | leagueEntry team =>
    show (∃ a, Read.ofExcept (leagueEntry snapshot.table team) = .value a) ∨
      ∃ kind team', Read.ofExcept (leagueEntry snapshot.table team) = .failed (.notFound kind team')
    unfold leagueEntry
    cases snapshot.table.find? fun row => row.team.answersTo team with
    | some row => exact .inl ⟨row, rfl⟩
    | none => exact .inr ⟨_, _, rfl⟩
  | headToHead a b => exact .inl ⟨_, rfl⟩
  | latestMatch team =>
    show (∃ a, Read.ofExcept (latestMatch snapshot.fixtures team now) = .value a) ∨
      ∃ kind team',
        Read.ofExcept (latestMatch snapshot.fixtures team now) = .failed (.notFound kind team')
    unfold latestMatch
    cases latest? snapshot.fixtures team now with
    | some fixture => exact .inl ⟨fixture, rfl⟩
    | none => exact .inr ⟨_, _, rfl⟩

theorem load_of_decode {folder : Folder} {path text : String} {snapshot : Snapshot}
    (file : folder.readText path = .ok text)
    (read : Json.decode Records.snapshot text = .ok snapshot) :
    load folder path = .ok snapshot := by
  unfold load
  rw [file]
  dsimp only
  rw [read]

end Snapshot

namespace Feed

/-- These rows stand in the first of the tables that counts all games. -/
def FirstTotal (tables : List Table) (rows : List Standing) : Prop :=
  ∃ before after, tables = before ++ ⟨totalKind, rows⟩ :: after ∧
    ∀ t ∈ before, t.kind ≠ totalKind

/-- **A feed and a dump of it are the same source.** For all tables of which the first that counts
all games has these rows, and for all fixtures: the written forms of the tables, of the fixtures and
of the snapshot of the rows and the fixtures say what they are forms of, if the fixtures kick off at
dates. And whichever texts say this, a feed whose server serves the texts of the tables and of the
fixtures cannot be told from the snapshot that is loaded from the text of the snapshot: not by any
read at the same moment, which has the same value or misses the same record, and so not by any
projection or settlement. -/
theorem feed_mirrors_dump (served : List Table) (rows : List Standing) (games : List Fixture)
    (first : FirstTotal served rows) :
    ((∀ f ∈ games, f.kickOff.IsDate) →
      Json.decode tables (writeTables served).render = .ok served ∧
      Json.decode fixtures (writeFixtures games).render = .ok games ∧
      Json.decode Records.snapshot (Records.writeSnapshot ⟨rows, games⟩).render =
        .ok ⟨rows, games⟩) ∧
    ∀ tablesText fixturesText dumpText : String,
      Json.decode tables tablesText = .ok served →
      Json.decode fixtures fixturesText = .ok games →
      Json.decode Records.snapshot dumpText = .ok ⟨rows, games⟩ →
      ∀ (feed : Feed) (server : Http.Server σ), feed.Serves server .tables tablesText →
        feed.Serves server .fixtures fixturesText →
        ∀ (folder : Folder) (path : String), folder.readText path = .ok dumpText →
          ∃ dump, Snapshot.load folder path = .ok dump ∧ ∀ state now,
            feed.Mirrors server state now (dump.provider now) ∧
            ∀ query : Query, (∃ a, query.ofProvider (dump.provider now) = .value a) ∨
              ∃ kind team,
                query.ofProvider (dump.provider now) = .failed (.notFound kind team) := by
  constructor
  · intro dates
    exact ⟨Json.decode_render (recovers_tables served),
      Json.decode_render (recovers_fixtures dates),
      Json.decode_render (Records.recovers_snapshot dates)⟩
  · intro tablesText fixturesText dumpText readTables readFixtures readDump feed server
      serveTables serveFixtures folder path file
    obtain ⟨before, after, rfl, others⟩ := first
    have brings : feed.Brings server ⟨rows, games⟩ :=
      brings_of_serves others readTables readFixtures serveTables serveFixtures
    refine ⟨⟨rows, games⟩, Snapshot.load_of_decode file readDump, fun state now => ?_⟩
    exact ⟨mirrors_of_brings brings state now, Snapshot.found_or_notFound _ now⟩

/-! ## A small dump -/

/-- A row of the table. -/
def smallRow : Standing :=
  ⟨1, ⟨61, "Chelsea FC", "Chelsea", "CHE"⟩, 1, 1, 0, 0, 3, 2, 1, 1⟩

/-- The tables of a feed: that of the home games stands first. -/
def smallTables : List Table := [⟨"HOME", []⟩, ⟨totalKind, [smallRow]⟩]

/-- A match that has been played. -/
def smallGame : Fixture :=
  ⟨1, ⟨0, 0⟩, .finished, some 1, ⟨61, "Chelsea FC", "Chelsea", "CHE"⟩,
    ⟨73, "Tottenham Hotspur FC", "Tottenham", "TOT"⟩, ⟨⟨some 2, some 1⟩, .unknown⟩⟩

open Traffic (nearFeed)

/-- The request for a resource. -/
def requestFor (resource : Resource) : Option Http.Request :=
  (nearFeed.request (nearFeed.address resource)).toOption

/-- A server of the tables and of the fixtures. -/
def smallServer : Http.Server Unit where
  toReading := .plain
  answer _ request :=
    let text := if requestFor .tables = some request then (writeTables smallTables).render
      else (writeFixtures [smallGame]).render
    (.reply (.granting text), ())

/-- A folder with the dump. -/
def smallFolder : Folder :=
  ⟨[("dump", (Records.writeSnapshot ⟨[smallRow], [smallGame]⟩).render.toUTF8)]⟩

theorem firstTotal_small : FirstTotal smallTables [smallRow] :=
  ⟨[⟨"HOME", []⟩], [], rfl, by decide⟩

theorem isDate_small : ∀ f ∈ [smallGame], f.kickOff.IsDate := by
  intro f hf
  rw [List.mem_singleton.mp hf]
  exact ⟨by decide, by decide, by decide, by decide⟩

theorem requestFor_ne : requestFor .tables ≠ none ∧ requestFor .fixtures ≠ none ∧
    requestFor .fixtures ≠ requestFor .tables := by
  decide +kernel

theorem exists_request {resource : Resource} (h : requestFor resource ≠ none) :
    ∃ request, nearFeed.request (nearFeed.address resource) = .ok request ∧
      requestFor resource = some request := by
  unfold requestFor at *
  cases asked : nearFeed.request (nearFeed.address resource) with
  | error fault =>
    rw [asked] at h
    exact absurd rfl h
  | ok request => exact ⟨request, rfl, rfl⟩

theorem serves_tables_small :
    nearFeed.Serves smallServer .tables (writeTables smallTables).render := by
  obtain ⟨request, asked, same⟩ := exists_request requestFor_ne.1
  refine serves_of_reply asked _ rfl rfl (Http.Reading.plain_granting _) fun state => ?_
  unfold smallServer
  dsimp only
  rw [if_pos same]

theorem serves_fixtures_small :
    nearFeed.Serves smallServer .fixtures (writeFixtures [smallGame]).render := by
  obtain ⟨request, asked, same⟩ := exists_request requestFor_ne.2.1
  refine serves_of_reply asked _ rfl rfl (Http.Reading.plain_granting _) fun state => ?_
  unfold smallServer
  dsimp only
  rw [if_neg (same ▸ requestFor_ne.2.2.symm)]

theorem names_dump : Folder.names "dump" = [['d', 'u', 'm', 'p']] := by decide

theorem enter_dump (contents : ByteArray) :
    Folder.enter ⟨[("dump", contents)]⟩ (.inside []) ['d', 'u', 'm', 'p'] =
      .ok (.file contents) := by
  have own : Folder.fileNames ("dump", contents) = [['d', 'u', 'm', 'p']] := by
    unfold Folder.fileNames
    rw [names_dump]
    rfl
  unfold Folder.enter
  dsimp only
  rw [if_neg (by decide), if_neg (by decide), if_neg (by decide)]
  unfold Folder.at?
  rw [List.find?_cons, own]
  rfl

theorem readText_dump (text : String) :
    Folder.readText ⟨[("dump", text.toUTF8)]⟩ "dump" = .ok text := by
  have found : Folder.find ⟨[("dump", text.toUTF8)]⟩ "dump" = .ok (.file text.toUTF8) := by
    unfold Folder.find
    rw [if_neg (by decide), if_neg (by decide), if_neg (by decide), if_neg (by decide), names_dump]
    unfold Folder.walk
    rw [enter_dump]
    rfl
  unfold Folder.readText
  rw [found]
  dsimp only [bind, Except.bind]
  rw [Http.fromUTF8?_toUTF8]

/-- The feed of the small server and the small dump. -/
theorem feed_mirrors_dump_small :
    FirstTotal smallTables [smallRow] ∧ ∃ dump, Snapshot.load smallFolder "dump" = .ok dump ∧
      nearFeed.Mirrors smallServer () ⟨86400, 0⟩ (dump.provider ⟨86400, 0⟩) := by
  obtain ⟨written, same⟩ := feed_mirrors_dump smallTables [smallRow] [smallGame] firstTotal_small
  obtain ⟨readTables, readFixtures, readDump⟩ := written isDate_small
  obtain ⟨dump, loaded, mirrors⟩ := same _ _ _ readTables readFixtures readDump nearFeed smallServer
    serves_tables_small serves_fixtures_small smallFolder "dump" (readText_dump _)
  exact ⟨firstTotal_small, dump, loaded, (mirrors () ⟨86400, 0⟩).1⟩

end Feed

end LeagueWager
