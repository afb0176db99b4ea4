import LeagueWager.Feed.Traffic

/-!
# What happened at a feed

A read of a feed is one of three questions, each about one of the two resources. What happens at a
resource is a list of events: a read is answered by what is kept, or it starts a fetch and is
answered by what that brings. The state of a resource is what its events lead to, so the list tells
which read started which fetch, and what each was answered with.

* `fetch_eq`, `read_eq`: a fetch and a read, whichever the resource is;
* `answer_ask`: a question to the feed alone is answered by what its resource is answered with;
* `step_iff`, `reachable_iff`: each step of the reads under way is an event at one resource;
* `Recorded.shelf_eq`: the state of a resource depends on its own events alone.
-/

namespace LeagueWager.Feed

/-! ## Questions -/

/-- What a resource holds. -/
@[reducible] def Resource.Held : Resource → Type
  | .tables => List Standing
  | .fixtures => List Fixture

/-- The value that a text gives. -/
def Resource.decode : (resource : Resource) → String → Except ReadError resource.Held
  | .tables => rowsOf
  | .fixtures => fixturesOf

namespace State

variable {σ : Type}

/-- What is kept of a resource. -/
def kept (s : State σ) : (resource : Resource) → Option resource.Held
  | .tables => s.rows
  | .fixtures => s.fixtures

/-- Something else is kept of a resource, and the line has gone on. -/
def put (s : State σ) : (resource : Resource) → Option resource.Held → Http.Line σ → State σ
  | .tables, rows, line => ⟨rows, s.fixtures, line⟩
  | .fixtures, fixtures, line => ⟨s.rows, fixtures, line⟩

@[simp] theorem kept_put (s : State σ) (resource : Resource) (kept : Option resource.Held)
    (line : Http.Line σ) : (s.put resource kept line).kept resource = kept := by
  cases resource <;> rfl

theorem kept_put_of_ne (s : State σ) {resource other : Resource} (h : other ≠ resource)
    (kept : Option resource.Held) (line : Http.Line σ) :
    (s.put resource kept line).kept other = s.kept other := by
  cases resource with
  | tables =>
    cases other with
    | tables => exact absurd rfl h
    | fixtures => rfl
  | fixtures =>
    cases other with
    | tables => rfl
    | fixtures => exact absurd rfl h

end State

/-- A read, as it is asked for. -/
inductive Query where
  | leagueEntry (team : String)
  | headToHead (a b : String)
  | latestMatch (team : String)
  deriving DecidableEq, Repr

namespace Query

/-- The resource that is looked at. -/
@[reducible] def resource : Query → Resource
  | .leagueEntry _ => .tables
  | .headToHead _ _ => .fixtures
  | .latestMatch _ => .fixtures

/-- What is asked for. -/
@[reducible] def Result : Query → Type
  | .leagueEntry _ => Standing
  | .headToHead _ _ => List Fixture
  | .latestMatch _ => Fixture

/-- What is read of the resource, as of `now`. -/
def select (now : Instant) : (query : Query) → query.resource.Held → Except ReadError query.Result
  | .leagueEntry team, rows => Snapshot.leagueEntry rows team
  | .headToHead a b, fixtures => .ok (Snapshot.headToHead fixtures a b)
  | .latestMatch team, fixtures => Snapshot.latestMatch fixtures team now

/-- The answer to a question whose resource was answered so. -/
def answer (now : Instant) (query : Query) (outcome : Except ReadError query.resource.Held) :
    Read query.Result :=
  .ofExcept (outcome.bind (query.select now))

/-- The question to a provider. -/
def ofProvider (provider : Provider) : (query : Query) → Read query.Result
  | .leagueEntry team => provider.leagueEntry team
  | .headToHead a b => provider.headToHead a b
  | .latestMatch team => provider.latestMatch team

end Query

section

variable {σ : Type} (feed : Feed) (server : Http.Server σ)

/-- A resource, fetched. -/
def fetch : (resource : Resource) → Http.Line σ →
    Except ReadError resource.Held × Http.Line σ
  | .tables => feed.fetchRows server
  | .fixtures => feed.fetchFixtures server

/-- A resource, read. -/
def read : (resource : Resource) → State σ → Except ReadError resource.Held × State σ
  | .tables => feed.readRows server
  | .fixtures => feed.readFixtures server

/-- The question to the feed. -/
def ask (now : Instant) : (query : Query) → State σ → Read query.Result × State σ
  | .leagueEntry team => feed.leagueEntry server team
  | .headToHead a b => feed.headToHead server a b
  | .latestMatch team => feed.latestMatch server now team

/-- A fetch brings the value of the text that it finds. -/
theorem fetch_eq (resource : Resource) (line : Http.Line σ) :
    feed.fetch server resource line =
      ((feed.fetchText server (feed.address resource) line).1.bind resource.decode,
        (feed.fetchText server (feed.address resource) line).2) := by
  cases resource with
  | tables =>
    unfold fetch fetchRows
    dsimp only
    rfl
  | fixtures =>
    unfold fetch fetchFixtures
    dsimp only
    rfl

/-- A read looks at what is kept of its resource, and changes nothing else. -/
theorem read_eq (resource : Resource) (s : State σ) :
    feed.read server resource s =
      ((reuse feed.keeps (feed.fetch server resource) (s.kept resource) s.line).1,
        s.put resource (reuse feed.keeps (feed.fetch server resource) (s.kept resource) s.line).2.1
          (reuse feed.keeps (feed.fetch server resource) (s.kept resource) s.line).2.2) := by
  cases resource with
  | tables => rfl
  | fixtures => rfl

/-- A question is answered by what its resource is answered with, and leaves what that leaves. -/
theorem answer_ask (now : Instant) (query : Query) (s : State σ) :
    feed.ask server now query s =
      (query.answer now (feed.read server query.resource s).1,
        (feed.read server query.resource s).2) := by
  cases query with
  | leagueEntry team => rfl
  | headToHead a b =>
    unfold ask headToHead Query.answer read
    dsimp only
    cases (feed.readFixtures server s).1 <;> rfl
  | latestMatch team => rfl

end

/-! ## Events of one resource -/

namespace Shelf

variable {ι α τ : Type}

/-- What happens at a resource. -/
inductive Event (ι α : Type) where
  /-- The read is answered by what is kept. -/
  | used (id : ι) (a : α)
  /-- The read starts a fetch. -/
  | began (id : ι)
  /-- The read's fetch ends, and the read is answered by what it brings. -/
  | ended (id : ι) (outcome : Except ReadError α)

namespace Event

/-- The read that starts a fetch. -/
def starter? : Event ι α → Option ι
  | .used _ _ => none
  | .began id => some id
  | .ended _ _ => none

/-- The read whose fetch ends, and what that brings. -/
def fetched? : Event ι α → Option (ι × Except ReadError α)
  | .used _ _ => none
  | .began _ => none
  | .ended id outcome => some (id, outcome)

/-- The read that is answered, and its answer. -/
def told? : Event ι α → Option (ι × Except ReadError α)
  | .used id a => some (id, .ok a)
  | .began _ => none
  | .ended id outcome => some (id, outcome)

end Event

/-- The reads that started a fetch, once for each fetch, in order. -/
def starters (events : List (Event ι α)) : List ι := events.filterMap Event.starter?

/-- What the fetches brought, each with the read that started it, in order. -/
def fetched (events : List (Event ι α)) : List (ι × Except ReadError α) :=
  events.filterMap Event.fetched?

/-- The reads that were answered, with their answers, in order. -/
def told (events : List (Event ι α)) : List (ι × Except ReadError α) :=
  events.filterMap Event.told?

/-- The resource after an event. -/
def after (s : Shelf ι α) : Event ι α → Shelf ι α
  | .used id a => s.use id a
  | .began id => s.hold id
  | .ended id outcome => s.store id outcome

/-- The resource after all that happened. -/
def replay (events : List (Event ι α)) : Shelf ι α := events.foldl after empty

theorem replay_append (events : List (Event ι α)) (event : Event ι α) :
    replay (events ++ [event]) = (replay events).after event := by
  unfold replay
  rw [List.foldl_append]
  rfl

section

variable (keeps : Bool) (mine : ι → Prop) (fetch : τ → Except ReadError α × τ)

/-- What may happen next: the read that gets the lock looks at what is kept, and fetches if it finds
nothing to use. -/
inductive Allows (s : Shelf ι α) (line : τ) : Event ι α → τ → Prop where
  | used {id : ι} {a : α} (turn : Turn mine id s) (found : usable keeps s.kept = some a) :
    Allows s line (.used id a) line
  | began {id : ι} (turn : Turn mine id s) (missing : usable keeps s.kept = none) :
    Allows s line (.began id) line
  | ended {id : ι} (holds : s.holder = some id) :
    Allows s line (.ended id (fetch line).1) (fetch line).2

/-- What may have happened, with any line to the server between one event and the next. -/
inductive Lawful : List (Event ι α) → Prop where
  | nil : Lawful []
  | snoc {events : List (Event ι α)} {event : Event ι α} {line line' : τ} (before : Lawful events)
      (next : Allows keeps mine fetch (replay events) line event line') :
    Lawful (events ++ [event])

end

theorem step_iff {keeps : Bool} {mine : ι → Prop} {fetch : τ → Except ReadError α × τ}
    {s s' : Shelf ι α} {line line' : τ} :
    Step keeps mine fetch s line s' line' ↔
      ∃ event, Allows keeps mine fetch s line event line' ∧ s' = s.after event := by
  constructor
  · intro h
    cases h with
    | use turn found => exact ⟨_, .used turn found, rfl⟩
    | ask turn missing => exact ⟨_, .began turn missing, rfl⟩
    | get holds => exact ⟨_, .ended holds, rfl⟩
  · rintro ⟨event, next, rfl⟩
    cases next with
    | used turn found => exact .use turn found
    | began turn missing => exact .ask turn missing
    | ended holds => exact .get holds

end Shelf

/-! ## Events of both resources -/

/-- What happened at each of the two resources. -/
structure History (ι : Type) where
  tables : List (Shelf.Event ι (List Standing))
  fixtures : List (Shelf.Event ι (List Fixture))

namespace History

variable {ι : Type}

/-- What happened at a resource. -/
def events (history : History ι) : (resource : Resource) → List (Shelf.Event ι resource.Held)
  | .tables => history.tables
  | .fixtures => history.fixtures

/-- One event more. -/
def add (history : History ι) : (resource : Resource) → Shelf.Event ι resource.Held → History ι
  | .tables, event => ⟨history.tables ++ [event], history.fixtures⟩
  | .fixtures, event => ⟨history.tables, history.fixtures ++ [event]⟩

@[simp] theorem events_add (history : History ι) (resource : Resource)
    (event : Shelf.Event ι resource.Held) :
    (history.add resource event).events resource = history.events resource ++ [event] := by
  cases resource <;> rfl

theorem events_add_of_ne (history : History ι) {resource other : Resource} (h : other ≠ resource)
    (event : Shelf.Event ι resource.Held) :
    (history.add resource event).events other = history.events other := by
  cases resource with
  | tables =>
    cases other with
    | tables => exact absurd rfl h
    | fixtures => rfl
  | fixtures =>
    cases other with
    | tables => rfl
    | fixtures => exact absurd rfl h

end History

namespace Traffic

variable {σ ι : Type}

/-- One of the two resources. -/
def shelf (t : Traffic σ ι) : (resource : Resource) → Shelf ι resource.Held
  | .tables => t.tables
  | .fixtures => t.fixtures

/-- Another state of one of the two resources, and of the line to the server. -/
def put (t : Traffic σ ι) : (resource : Resource) → Shelf ι resource.Held → Http.Line σ →
    Traffic σ ι
  | .tables, s, line => ⟨s, t.fixtures, line⟩
  | .fixtures, s, line => ⟨t.tables, s, line⟩

@[simp] theorem shelf_put (t : Traffic σ ι) (resource : Resource) (s : Shelf ι resource.Held)
    (line : Http.Line σ) : (t.put resource s line).shelf resource = s := by
  cases resource <;> rfl

theorem shelf_put_of_ne (t : Traffic σ ι) {resource other : Resource} (h : other ≠ resource)
    (s : Shelf ι resource.Held) (line : Http.Line σ) :
    (t.put resource s line).shelf other = t.shelf other := by
  cases resource with
  | tables =>
    cases other with
    | tables => exact absurd rfl h
    | fixtures => rfl
  | fixtures =>
    cases other with
    | tables => rfl
    | fixtures => exact absurd rfl h

@[simp] theorem line_put (t : Traffic σ ι) (resource : Resource) (s : Shelf ι resource.Held)
    (line : Http.Line σ) : (t.put resource s line).line = line := by
  cases resource <;> rfl

section

variable (feed : Feed) (server : Http.Server σ) (wants : ι → Resource) (state : σ)

/-- What the reads can come to, with all that happened on the way. -/
inductive Recorded : Traffic σ ι → History ι → Prop where
  | start : Recorded (start state) ⟨[], []⟩
  | tail {t : Traffic σ ι} {history : History ι} {resource : Resource} {line : Http.Line σ}
      {event : Shelf.Event ι resource.Held} (before : Recorded t history)
      (next : Shelf.Allows feed.keeps (fun id => wants id = resource) (feed.fetch server resource)
        (t.shelf resource) t.line event line) :
    Recorded (t.put resource ((t.shelf resource).after event) line) (history.add resource event)

end

variable {feed : Feed} {server : Http.Server σ} {wants : ι → Resource} {state : σ}
variable {t : Traffic σ ι} {history : History ι}

theorem step_iff {t' : Traffic σ ι} :
    Step feed server wants t t' ↔
      ∃ (resource : Resource) (event : Shelf.Event ι resource.Held) (line : Http.Line σ),
        Shelf.Allows feed.keeps (fun id => wants id = resource) (feed.fetch server resource)
          (t.shelf resource) t.line event line ∧
        t' = t.put resource ((t.shelf resource).after event) line := by
  constructor
  · intro step
    cases step with
    | tables hs =>
      obtain ⟨event, next, rfl⟩ := Shelf.step_iff.mp hs
      exact ⟨.tables, event, _, next, rfl⟩
    | fixtures hs =>
      obtain ⟨event, next, rfl⟩ := Shelf.step_iff.mp hs
      exact ⟨.fixtures, event, _, next, rfl⟩
  · rintro ⟨resource, event, line, next, rfl⟩
    have step := Shelf.step_iff.mpr ⟨event, next, rfl⟩
    cases resource with
    | tables => exact .tables step
    | fixtures => exact .fixtures step

/-- Every run can be told as what happened. -/
theorem reachable_iff :
    Reachable feed server wants state t ↔
      ∃ history, Recorded feed server wants state t history := by
  constructor
  · intro h
    induction h with
    | start => exact ⟨_, .start⟩
    | tail _ step ih =>
      obtain ⟨history, before⟩ := ih
      obtain ⟨resource, event, line, next, rfl⟩ := step_iff.mp step
      exact ⟨_, .tail before next⟩
  · rintro ⟨history, h⟩
    induction h with
    | start => exact .start
    | tail _ next ih => exact .tail ih (step_iff.mpr ⟨_, _, _, next, rfl⟩)

/-- **The state of a resource is what its own events lead to.** -/
theorem Recorded.shelf_eq (h : Recorded feed server wants state t history) (resource : Resource) :
    t.shelf resource = Shelf.replay (history.events resource) := by
  induction h with
  | start => cases resource <;> rfl
  | @tail _ _ changed _ _ _ _ ih =>
    by_cases same : resource = changed
    · subst same
      rw [shelf_put, History.events_add, Shelf.replay_append, ih]
    · rw [shelf_put_of_ne _ same, History.events_add_of_ne _ same, ih]

/-- The events of each resource may have happened in their order. -/
theorem Recorded.lawful (h : Recorded feed server wants state t history) (resource : Resource) :
    Shelf.Lawful feed.keeps (fun id => wants id = resource) (feed.fetch server resource)
      (history.events resource) := by
  induction h with
  | start => cases resource <;> exact .nil
  | @tail _ _ changed _ _ before next ih =>
    by_cases same : resource = changed
    · subst same
      rw [before.shelf_eq resource] at next
      rw [History.events_add]
      exact .snoc ih next
    · rw [History.events_add_of_ne _ same]
      exact ih

end Traffic

end LeagueWager.Feed
