import LeagueWager.Feed.Schedule
import LeagueWager.Proofs.Replies

/-!
# The key of a feed

The key stands in every request of a feed, and nowhere else. If the server does not look at it, two
feeds that differ in nothing but their keys go on alike under every schedule: with the key of the
other put into all that the one has sent, each state of the one is the state of the other.

* `Http.Server.Blind.send`, `Http.Server.Blind.get`: what becomes of a request with another token;
* `advance_withKey`, `ask_withKey`: what becomes of a fetch and of a read with another key;
* `Work.run_withKey`, `performAll_withKey`: every schedule, and all operations;
* `alike_of_keys`: what the two feeds answer, keep and send.
-/

namespace LeagueWager

namespace Http

variable {σ : Type}

/-- The request with another token. -/
def Request.bearing (token : Option String) (request : Request) : Request :=
  { request with token := token }

def Errand.bearing (token : Option String) (errand : Errand) : Errand :=
  { errand with request := errand.request.bearing token }

def Progress.bearing {α : Type} (token : Option String) : Progress α → Progress α
  | .onward errand => .onward (errand.bearing token)
  | .ended a => .ended a

/-- The line, as if all requests had been sent with another token. -/
def Line.bearing (token : Option String) (line : Line σ) : Line σ :=
  { line with sent := line.sent.map (·.bearing token) }

theorem Progress.map_bearing {α β : Type} (token : Option String) (f : α → β) (p : Progress α) :
    (p.bearing token).map f = (p.map f).bearing token := by
  cases p <;> rfl

namespace Server

/-- The server does not look at the token. -/
def Blind (server : Server σ) : Prop :=
  ∀ state request token, server.answer state (request.bearing token) = server.answer state request

variable {server : Server σ}

theorem Blind.ask (blind : server.Blind) (token : Option String) (line : Line σ)
    (request : Request) :
    server.ask (line.bearing token) (request.bearing token) =
      ((server.ask line request).1, (server.ask line request).2.bearing token) := by
  have sent : (line.bearing token).sent ++ [request.bearing token] =
      (line.sent ++ [request]).map (·.bearing token) := by
    rw [List.map_append]
    rfl
  unfold Server.ask
  rw [show (line.bearing token).state = line.state from rfl, blind, sent]
  rfl

/-- **A request with another token comes to the same.** -/
theorem Blind.send (blind : server.Blind) (token : Option String) (line : Line σ)
    (errand : Errand) :
    server.send (line.bearing token) (errand.bearing token) =
      ((server.send line errand).1.bearing token, (server.send line errand).2.bearing token) := by
  obtain ⟨request, more⟩ := errand
  unfold Server.send
  rw [show (Errand.bearing token ⟨request, more⟩).request = request.bearing token from rfl,
    blind.ask]
  dsimp only
  cases (server.ask line request).1 with
  | silence => rfl
  | reply reply =>
    dsimp only
    rw [show (request.bearing token).address = request.address from rfl]
    cases server.redirect? reply request.address with
    | none => rfl
    | some address =>
      cases more with
      | zero => rfl
      | succ more =>
        dsimp only
        cases address.isAskable <;> rfl

theorem Blind.get (blind : server.Blind) (token : Option String) (line : Line σ)
    (errand : Errand) :
    server.get errand.more (line.bearing token) (errand.request.bearing token) =
      ((server.get errand.more line errand.request).1,
        (server.get errand.more line errand.request).2.bearing token) := by
  induction hm : errand.more using Nat.strongRecOn generalizing line errand with
  | ind more ih =>
    subst hm
    have step := get_eq_send server (line.bearing token) (errand.bearing token)
    rw [blind.send] at step
    rw [get_eq_send server line errand]
    rcases sent : server.send line errand with ⟨next | outcome, after⟩
    · rw [sent] at step
      exact step.trans (ih next.more (more_lt_of_send sent) after next rfl)
    · rw [sent] at step
      exact step

end Server

end Http

namespace Feed

variable {σ ι : Type} {feed : Feed} {key : Option String} {server : Http.Server σ}
variable {wants : ι → Resource}

/-- The feed with another key. -/
def withKey (feed : Feed) (key : Option String) : Feed := { feed with key := key }

/-! ## A fetch with another key -/

section

variable (legal : feed.key.all isLegalKey = true) (legal' : key.all isLegalKey = true)

include legal legal'

theorem fault?_withKey (place : Address) : (feed.withKey key).fault? place = feed.fault? place := by
  unfold fault?
  rw [legal, show (feed.withKey key).key.all isLegalKey = true from legal']

theorem request_withKey (address : String) :
    (feed.withKey key).request address = (feed.request address).map (·.bearing key) := by
  unfold request
  cases Address.ofText address with
  | none => rfl
  | some place =>
    dsimp only
    rw [fault?_withKey legal legal']
    cases feed.fault? place.withoutUser <;> rfl

theorem begin_withKey (address : String) :
    (feed.withKey key).begin address = (feed.begin address).map (·.bearing key) := by
  unfold begin
  rw [request_withKey legal legal']
  cases feed.request address <;> rfl

/-- The request that is sent next is the same, but for the key. -/
theorem next_withKey (errand : Option Http.Errand) (address : String) :
    (errand.map (·.bearing key)).elim ((feed.withKey key).begin address) .ok =
      (errand.elim (feed.begin address) .ok).map (·.bearing key) := by
  cases errand with
  | none => exact begin_withKey legal legal' address
  | some errand => rfl

variable (blind : server.Blind)

include blind

/-- **One request of a fetch, with another key.** -/
theorem advance_withKey (resource : Resource) (errand : Option Http.Errand) (line : Http.Line σ) :
    (feed.withKey key).advance server resource (errand.map (·.bearing key)) (line.bearing key) =
      ((feed.advance server resource errand line).1.bearing key,
        (feed.advance server resource errand line).2.bearing key) := by
  unfold advance
  rw [show (feed.withKey key).address resource = feed.address resource from rfl,
    next_withKey legal legal']
  cases errand.elim (feed.begin (feed.address resource)) .ok with
  | error e => rfl
  | ok first =>
    dsimp only [Except.map]
    rw [blind.send]
    dsimp only
    rw [Http.Progress.map_bearing]
    rfl

theorem fetch_withKey (resource : Resource) (line : Http.Line σ) :
    (feed.withKey key).fetch server resource (line.bearing key) =
      ((feed.fetch server resource line).1, (feed.fetch server resource line).2.bearing key) := by
  rw [fetch_eq_resume, fetch_eq_resume]
  unfold resume
  rw [show (feed.withKey key).address resource = feed.address resource from rfl,
    Option.elim, Option.elim, begin_withKey legal legal']
  cases feed.begin (feed.address resource) with
  | error e => rfl
  | ok first =>
    dsimp only [Except.map]
    have got := blind.get key line first
    rw [show (first.bearing key).more = first.more from rfl,
      show (first.bearing key).request = first.request.bearing key from rfl, got]
    rfl

end

/-! ## A schedule with another key -/

/-- All that was sent, with another key. -/
def Traffic.bearing (key : Option String) (t : Traffic σ ι) : Traffic σ ι :=
  { t with line := t.line.bearing key }

@[simp] theorem Traffic.shelf_bearing (key : Option String) (t : Traffic σ ι)
    (resource : Resource) : (t.bearing key).shelf resource = t.shelf resource := by
  cases resource <;> rfl

namespace Work

def bearing (key : Option String) (w : Work σ ι) : Work σ ι :=
  ⟨w.traffic.bearing key, fun resource => (w.errand resource).map (·.bearing key)⟩

theorem put_bearing (key : Option String) (w : Work σ ι) (resource : Resource)
    (s : Shelf ι resource.Held) (errand : Option Http.Errand) (line : Http.Line σ) :
    (w.bearing key).put resource s (errand.map (·.bearing key)) (line.bearing key)
      = (w.put resource s errand line).bearing key := by
  unfold put bearing
  rw [Work.mk.injEq]
  constructor
  · cases resource <;> rfl
  · funext other
    dsimp only
    split <;> rfl

section

variable [DecidableEq ι]
variable (legal : feed.key.all isLegalKey = true) (legal' : key.all isLegalKey = true)
variable (blind : server.Blind)

include legal legal' blind

/-- **What a read does next is the same, but for the key.** -/
theorem go_withKey (w : Work σ ι) (id : ι) :
    (w.bearing key).go (feed.withKey key) server wants id
      = (w.go feed server wants id).bearing key := by
  have advanced := advance_withKey legal legal' blind (wants id) (w.errand (wants id))
    w.traffic.line
  unfold go
  rw [show (w.bearing key).traffic.shelf (wants id) = w.traffic.shelf (wants id) from
    Traffic.shelf_bearing key w.traffic (wants id)]
  dsimp only
  cases (w.traffic.shelf (wants id)).holder with
  | none =>
    dsimp only
    by_cases told : id ∈ (w.traffic.shelf (wants id)).answered
    · rw [if_pos told, if_pos told]
    · rw [if_neg told, if_neg told]
      rw [show (feed.withKey key).keeps = feed.keeps from rfl]
      cases usable feed.keeps (w.traffic.shelf (wants id)).kept with
      | some a => exact put_bearing key w _ _ none _
      | none => exact put_bearing key w _ _ none _
  | some holder =>
    dsimp only
    by_cases own : holder = id
    · rw [if_pos own, if_pos own,
        show (w.bearing key).errand (wants id) = (w.errand (wants id)).map (·.bearing key) from rfl,
        show (w.bearing key).traffic.line = w.traffic.line.bearing key from rfl, advanced]
      rcases feed.advance server (wants id) (w.errand (wants id)) w.traffic.line with
        ⟨next | outcome, line⟩
      · exact put_bearing key w _ _ (some next) line
      · exact put_bearing key w _ _ none line
    · rw [if_neg own, if_neg own]

theorem move_withKey (w : Work σ ι) (m : Move ι) :
    (w.bearing key).move (feed.withKey key) server wants m
      = (w.move feed server wants m).bearing key := by
  cases m with
  | go id => exact go_withKey legal legal' blind w id
  | age resource =>
    unfold move
    rw [← put_bearing]
    dsimp only
    rw [show (w.bearing key).traffic.shelf resource = w.traffic.shelf resource from
      Traffic.shelf_bearing key w.traffic resource]
    rfl

/-- **Under every schedule**, what the feed with the other key comes to. -/
theorem run_withKey (state : σ) (schedule : List (Move ι)) :
    run (feed.withKey key) server wants state schedule
      = (run feed server wants state schedule).bearing key := by
  show schedule.foldl (move (feed.withKey key) server wants) ((start state).bearing key) = _
  exact List.foldl_hom (bearing key) fun w m => move_withKey legal legal' blind w m

end

end Work

/-! ## Operations with another key -/

def State.bearing (key : Option String) (s : State σ) : State σ :=
  { s with line := s.line.bearing key }

/-- What is used again does not depend on what was sent. -/
theorem reuse_of_fetch {α τ : Type} {fetch fetch' : τ → Except ReadError α × τ} {f : τ → τ}
    (same : ∀ line, fetch' (f line) = ((fetch line).1, f (fetch line).2)) (keeps : Bool)
    (kept : Option α) (line : τ) :
    reuse keeps fetch' kept (f line) =
      ((reuse keeps fetch kept line).1, (reuse keeps fetch kept line).2.1,
        f (reuse keeps fetch kept line).2.2) := by
  unfold reuse
  cases usable keeps kept with
  | some a => rfl
  | none =>
    dsimp only
    rw [same]

section

variable (legal : feed.key.all isLegalKey = true) (legal' : key.all isLegalKey = true)
variable (blind : server.Blind)

include legal legal' blind

theorem read_withKey (resource : Resource) (s : State σ) :
    (feed.withKey key).read server resource (s.bearing key) =
      ((feed.read server resource s).1, (feed.read server resource s).2.bearing key) := by
  have fetched := fetch_withKey legal legal' blind resource
  have kept : (s.bearing key).kept resource = s.kept resource := by
    cases resource <;> rfl
  rw [read_eq, read_eq, kept, show (s.bearing key).line = s.line.bearing key from rfl,
    show (feed.withKey key).keeps = feed.keeps from rfl, reuse_of_fetch fetched]
  cases resource <;> rfl

/-- **A read is answered the same.** -/
theorem ask_withKey (now : Instant) (query : Query) (s : State σ) :
    (feed.withKey key).ask server now query (s.bearing key) =
      ((feed.ask server now query s).1, (feed.ask server now query s).2.bearing key) := by
  rw [answer_ask, answer_ask, read_withKey legal legal' blind]

theorem reads_withKey (now : Instant) (assignment : Assignment) (s : State σ) :
    (feed.withKey key).reads server now assignment (s.bearing key) =
      ((feed.reads server now assignment s).1,
        (feed.reads server now assignment s).2.bearing key) := by
  have asked := ask_withKey legal legal' blind now
  have row := asked (.leagueEntry assignment.team)
  have fixtures := asked (.headToHead assignment.opponents.1 assignment.opponents.2)
  have latest := asked (.latestMatch assignment.team)
  dsimp only [ask] at row fixtures latest
  unfold reads
  rw [row]
  dsimp only
  rw [fixtures]
  dsimp only
  rw [latest]

theorem project_withKey (now : Instant) (rules : Rules) (assignment : Assignment) (s : State σ) :
    (feed.withKey key).project server now rules assignment (s.bearing key) =
      ((feed.project server now rules assignment s).1,
        (feed.project server now rules assignment s).2.bearing key) := by
  unfold project
  rw [reads_withKey legal legal' blind]

theorem settle_withKey (now : Instant) (rules : Rules) (assignments : Trio Assignment)
    (s : State σ) :
    (feed.withKey key).settle server now rules assignments (s.bearing key) =
      ((feed.settle server now rules assignments s).1,
        (feed.settle server now rules assignments s).2.bearing key) := by
  have read := reads_withKey legal legal' blind now
  unfold settle
  rw [read]
  dsimp only
  rw [read]
  dsimp only
  rw [read]

theorem perform_withKey (operation : Operation) (s : State σ) :
    (feed.withKey key).perform server operation (s.bearing key) =
      ((feed.perform server operation s).1, (feed.perform server operation s).2.bearing key) := by
  cases operation with
  | read now query =>
    unfold perform
    dsimp only
    rw [ask_withKey legal legal' blind]
  | project now rules assignment =>
    unfold perform
    dsimp only
    rw [project_withKey legal legal' blind]
  | settle now rules assignments =>
    unfold perform
    dsimp only
    rw [settle_withKey legal legal' blind]
  | age resource => cases resource <;> rfl

/-- **All operations come to the same.** -/
theorem performAll_withKey (operations : List Operation) (s : State σ) :
    (feed.withKey key).performAll server operations (s.bearing key) =
      ((feed.performAll server operations s).1,
        (feed.performAll server operations s).2.bearing key) := by
  induction operations generalizing s with
  | nil => rfl
  | cons operation rest ih =>
    unfold performAll
    rw [perform_withKey legal legal' blind]
    dsimp only
    rw [ih]

end

/-! ## What can be told apart -/

/-- The answer to one of the nine reads of a settlement. -/
def answerOf (assignments : Trio Assignment) (reads : Trio Reads) :
    (read : ReadOf) → Read (questionOf assignments read).Result
  | (seat, .leagueEntry) => (reads.get seat).leagueEntry
  | (seat, .headToHead) => (reads.get seat).headToHead
  | (seat, .latestMatch) => (reads.get seat).latestMatch

namespace Traffic

/-- If the read was answered, then so. -/
def Tells (t : Traffic σ ι) (now : Instant) (id : ι) (query : Query) (read : Read query.Result) :
    Prop :=
  ∀ outcome, (id, outcome) ∈ (t.shelf query.resource).answers → read = query.answer now outcome

/-- A settlement whose nine reads stand at these places, each with the moment it looks at, can have
come so far. -/
def Takes (t : Traffic σ ι) (rules : Rules) (assignments : Trio Assignment) (place : ReadOf → ι)
    (now : ReadOf → Instant) (c : Course) : Prop :=
  ∃ reads : Trio Reads,
    (∀ read, t.Tells (now read) (place read) (questionOf assignments read)
      (answerOf assignments reads read)) ∧
    Course.Reachable rules assignments reads (fun read => place read ∈ t.answered) c

theorem takes_bearing (key : Option String) (t : Traffic σ ι) :
    (t.bearing key).Takes = t.Takes := by
  unfold Takes Tells
  simp only [shelf_bearing]
  rfl

end Traffic

end Feed

/-- The same requests in the same order, each with the key of its own feed. -/
structure Http.SameBut (key key' : Option String) (sent sent' : List Request) : Prop where
  addresses : sent'.map (·.address) = sent.map (·.address)
  own : ∀ request ∈ sent, request.token = key
  own' : ∀ request ∈ sent', request.token = key'

theorem Http.sameBut_of_bearing {σ : Type} {key : Option String} {line : Line σ}
    (own : line.bearing key = line) (key' : Option String) :
    SameBut key key' line.sent (line.bearing key').sent where
  addresses := by
    unfold Line.bearing
    rw [List.map_map]
    rfl
  own request mem := by
    rw [← own] at mem
    obtain ⟨_, _, rfl⟩ := List.mem_map.mp mem
    rfl
  own' request mem := by
    obtain ⟨_, _, rfl⟩ := List.mem_map.mp mem
    rfl

namespace Feed

variable {σ ι : Type}

/-- Two feeds, and what they have come to: nobody can tell the one from the other but by the key in
the requests. -/
structure Alike (feed feed' : Feed) (server : Http.Server σ) (w w' : Work σ ι) : Prop where
  /-- The reads have the same answers, the same wait, and the same is kept. -/
  shelf : ∀ resource, w'.traffic.shelf resource = w.traffic.shelf resource
  sent : Http.SameBut feed.key feed'.key w.traffic.line.sent w'.traffic.line.sent
  /-- A settlement of such reads takes the same courses, to the same ends. -/
  takes : w'.traffic.Takes = w.traffic.Takes
  /-- Operations that follow come to the same values and the same failures. -/
  results : ∀ operations, (feed'.performAll server operations w'.traffic.state).1
    = (feed.performAll server operations w.traffic.state).1
  sentAfter : ∀ operations, Http.SameBut feed.key feed'.key
    (feed.performAll server operations w.traffic.state).2.line.sent
    (feed'.performAll server operations w'.traffic.state).2.line.sent

/-- **The key stands in the requests, and nowhere else.** Two feeds with the same addresses, of
which each has a key that may stand in a request or none, are read by the same schedule, from a
server that does not look at the key. In both, the reads have the same answers, settlements take the
same courses, and the operations that follow come to the same values and failures. The same requests
are sent in the same order, all with the key of their feed. -/
theorem alike_of_keys (feed : Feed) (key : Option String)
    (legal : feed.key.all isLegalKey = true) (legal' : key.all isLegalKey = true)
    (server : Http.Server σ) (blind : server.Blind) (state : σ) [DecidableEq ι]
    (wants : ι → Resource) (schedule : List (Move ι)) :
    feed.Alike (feed.withKey key) server (Work.run feed server wants state schedule)
      (Work.run (feed.withKey key) server wants state schedule) := by
  have other : Work.run (feed.withKey key) server wants state schedule
      = (Work.run feed server wants state schedule).bearing key :=
    Work.run_withKey legal legal' blind state schedule
  -- with its own key put into all that it has sent, a feed comes to what it has come to
  have own : Work.run feed server wants state schedule
      = (Work.run feed server wants state schedule).bearing feed.key :=
    Work.run_withKey legal legal blind state schedule
  generalize Work.run feed server wants state schedule = w at other own
  have ownState : w.traffic.state.bearing feed.key = w.traffic.state :=
    congrArg (fun w : Work σ ι => w.traffic.state) own.symm
  have otherState : (w.bearing key).traffic.state = w.traffic.state.bearing key := rfl
  rw [other]
  refine ⟨?_, ?_, ?_, ?_, ?_⟩
  · intro resource
    exact Traffic.shelf_bearing key w.traffic resource
  · have ownLine : w.traffic.line.bearing feed.key = w.traffic.line :=
      congrArg State.line ownState
    exact Http.sameBut_of_bearing ownLine key
  · exact Traffic.takes_bearing key w.traffic
  · intro operations
    rw [otherState, performAll_withKey legal legal' blind]
  · intro operations
    have performed := performAll_withKey legal legal blind operations w.traffic.state
    rw [ownState] at performed
    have ownLine : (feed.performAll server operations w.traffic.state).2.line.bearing feed.key
        = (feed.performAll server operations w.traffic.state).2.line :=
      congrArg (fun result => result.2.line) performed.symm
    rw [otherState, performAll_withKey legal legal' blind]
    exact Http.sameBut_of_bearing ownLine key

/-! ## A key and none -/

/-- A server of a competition without fixtures. -/
def idleServer : Http.Server Unit where
  toReading := .plain
  answer _ _ := (.reply ⟨200, none, none, (writeFixtures []).render.toUTF8, true⟩, ())

theorem blind_idleServer : idleServer.Blind := fun _ _ _ => rfl

/-- Two reads of the fixtures: the first sends a request, and the second uses what it brought. -/
def twoReads : List (Move Nat) := [.go 0, .go 0, .go 1]

theorem alike_of_nearFeed :
    Traffic.nearFeed.Alike (Traffic.nearFeed.withKey (some "token")) idleServer
        (Work.run Traffic.nearFeed idleServer (fun _ => .fixtures) () twoReads)
        (Work.run (Traffic.nearFeed.withKey (some "token")) idleServer (fun _ => .fixtures) ()
          twoReads) ∧
      (Work.run (Traffic.nearFeed.withKey (some "token")) idleServer (fun _ => .fixtures) ()
          twoReads).traffic.line.sent.map (·.token) = [some "token"] := by
  constructor
  · exact alike_of_keys Traffic.nearFeed (some "token") rfl (by decide) idleServer
      blind_idleServer () _ twoReads
  · decide +kernel

end Feed

end LeagueWager
