import LeagueWager.Feed.History

/-!
# Schedules

A schedule says what happens next at a feed: a read goes on, or what is kept of a resource becomes
too old to be used. It fixes all that happens, down to the single requests, for a fetch of the table
and one of the fixtures may send theirs in turns.

* `Http.Server.get_eq_send`, `fetch_eq_resume`, `resume_eq_advance`: a fetch, request by request;
* `Work.exists_schedule`: whatever the reads can come to, a schedule leads there.
-/

namespace LeagueWager

namespace Http

/-- A request on its way, and how often it may still be sent elsewhere. -/
structure Errand where
  request : Request
  more : Nat

/-- How far an errand has come. -/
inductive Progress (α : Type) where
  /-- It goes on with another request. -/
  | onward (errand : Errand)
  | ended (a : α)

/-- What it ends with, seen as something else. -/
def Progress.map {α β : Type} (f : α → β) : Progress α → Progress β
  | .onward errand => .onward errand
  | .ended a => .ended (f a)

variable {σ : Type}

/-- Sends the request once. -/
def Server.send (server : Server σ) (line : Line σ) (errand : Errand) :
    Progress Outcome × Line σ :=
  let (answer, line) := server.ask line errand.request
  match answer with
  | .silence => (.ended (.unanswered errand.request.address), line)
  | .reply reply =>
    match server.redirect? reply errand.request.address with
    | none => (.ended (.page reply), line)
    | some address =>
      match errand.more with
      | 0 => (.ended (.lost errand.request.address), line)
      | more + 1 =>
        if address.isAskable then (.onward ⟨{ errand.request with address := address }, more⟩, line)
        else (.ended (.barred address), line)

/-- **A page is asked for request by request.** -/
theorem Server.get_eq_send (server : Server σ) (line : Line σ) (errand : Errand) :
    server.get errand.more line errand.request =
      match server.send line errand with
      | (.ended outcome, line) => (outcome, line)
      | (.onward next, line) => server.get next.more line next.request := by
  obtain ⟨request, more⟩ := errand
  unfold send
  dsimp only
  cases answered : (server.ask line request).1 with
  | silence => exact get_of_silence answered more
  | reply reply =>
    dsimp only
    cases sent : server.redirect? reply request.address with
    | none => exact get_of_stays answered sent more
    | some address =>
      cases more with
      | zero => exact get_zero_of_sent answered sent
      | succ more =>
        dsimp only
        cases askable : address.isAskable with
        | true => exact get_succ_of_sent answered sent askable more
        | false => exact get_succ_of_barred answered sent askable more

/-- It cannot go on for ever. -/
theorem Server.more_lt_of_send {server : Server σ} {line line' : Line σ} {errand next : Errand}
    (h : server.send line errand = (.onward next, line')) : next.more < errand.more := by
  obtain ⟨request, more⟩ := errand
  unfold send at h
  dsimp only at h
  cases ha : (server.ask line request).1 with
  | silence =>
    rw [ha] at h
    cases h
  | reply reply =>
    rw [ha] at h
    dsimp only at h
    cases hr : server.redirect? reply request.address with
    | none =>
      rw [hr] at h
      cases h
    | some address =>
      rw [hr] at h
      cases more with
      | zero => cases h
      | succ more =>
        dsimp only at h
        split at h
        · cases h
          exact Nat.lt_succ_self more
        · cases h

end Http

namespace Feed

/-! ## A fetch, request by request -/

section

variable {σ : Type}

/-- The first request for an address. -/
def begin (feed : Feed) (address : String) : Except ReadError Http.Errand :=
  match feed.request address with
  | .error fault => .error (.unavailable s!"{address}: {fault}")
  | .ok request => .ok ⟨request, mostRedirects⟩

/-- What a resource has, as its last reply says. -/
def finish (feed : Feed) (reading : Http.Reading) (resource : Resource) (outcome : Http.Outcome) :
    Except ReadError resource.Held :=
  match textOf reading outcome with
  | .ok text => resource.decode text
  | .error fault => .error (.unavailable (feed.address resource ++ fault))

variable (feed : Feed) (server : Http.Server σ) (resource : Resource)

/-- One request of a fetch, the first if none was sent. -/
def advance (errand : Option Http.Errand) (line : Http.Line σ) :
    Http.Progress (Except ReadError resource.Held) × Http.Line σ :=
  match errand.elim (feed.begin (feed.address resource)) .ok with
  | .error e => (.ended (.error e), line)
  | .ok errand =>
    let (progress, line) := server.send line errand
    (progress.map (feed.finish server.toReading resource), line)

/-- All requests of a fetch that are left. -/
def resume (errand : Option Http.Errand) (line : Http.Line σ) :
    Except ReadError resource.Held × Http.Line σ :=
  match errand.elim (feed.begin (feed.address resource)) .ok with
  | .error e => (.error e, line)
  | .ok errand =>
    let (outcome, line) := server.get errand.more line errand.request
    (feed.finish server.toReading resource outcome, line)

theorem fetch_eq_resume (line : Http.Line σ) :
    feed.fetch server resource line = feed.resume server resource none line := by
  rw [fetch_eq]
  unfold fetchText resume finish begin
  dsimp only [Option.elim]
  cases feed.request (feed.address resource) with
  | error fault => rfl
  | ok request =>
    dsimp only
    cases textOf server.toReading (server.get mostRedirects line request).1 <;> rfl

theorem resume_eq_advance (errand : Option Http.Errand) (line : Http.Line σ) :
    feed.resume server resource errand line =
      match feed.advance server resource errand line with
      | (.ended outcome, line) => (outcome, line)
      | (.onward next, line) => feed.resume server resource (some next) line := by
  unfold resume advance
  cases errand.elim (feed.begin (feed.address resource)) .ok with
  | error e => rfl
  | ok errand =>
    dsimp only
    rw [Http.Server.get_eq_send]
    rcases server.send line errand with ⟨_ | _, line⟩ <;> rfl

/-- How often it can still be sent, the first time included. -/
def left : Option Http.Errand → Nat
  | none => mostRedirects + 2
  | some errand => errand.more + 1

variable {feed server resource}

theorem more_lt_left {errand : Option Http.Errand} {first : Http.Errand}
    (h : errand.elim (feed.begin (feed.address resource)) .ok = .ok first) :
    first.more < left errand := by
  cases errand with
  | none =>
    rw [Option.elim_none] at h
    unfold begin at h
    split at h
    · cases h
    · cases h
      exact Nat.lt_add_of_pos_right (by decide)
  | some errand =>
    cases h
    exact Nat.lt_succ_self _

theorem left_lt_of_advance {errand : Option Http.Errand} {next : Http.Errand}
    {line line' : Http.Line σ}
    (h : feed.advance server resource errand line = (.onward next, line')) :
    left (some next) < left errand := by
  unfold advance at h
  cases he : errand.elim (feed.begin (feed.address resource)) .ok with
  | error e =>
    rw [he] at h
    cases h
  | ok first =>
    rw [he] at h
    dsimp only at h
    have bound := more_lt_left he
    rcases hs : server.send line first with ⟨onward | outcome, after⟩
    · rw [hs] at h
      cases h
      have fewer := Http.Server.more_lt_of_send hs
      show next.more + 1 < left errand
      omega
    · rw [hs] at h
      cases h

end

/-! ## A schedule -/

/-- What is kept is too old to be used. Whether it is dropped, or stays behind until a fetch
succeeds, no read can tell. -/
def Shelf.age {ι α : Type} (s : Shelf ι α) : Shelf ι α := { s with kept := none }

theorem Shelf.mine_of_allows {ι α τ : Type} {keeps : Bool} {mine : ι → Prop}
    {fetch : τ → Except ReadError α × τ} {s : Shelf ι α} {line line' : τ} {event : Event ι α}
    (next : Allows keeps mine fetch s line event line') {id : ι}
    (holds : (s.after event).holder = some id) : mine id := by
  cases next with
  | used turn _ =>
    have free := turn.free
    rw [show s.holder = some id from holds] at free
    cases free
  | began turn _ =>
    cases holds
    exact turn.own
  | ended _ => cases holds

/-- What happens next. -/
inductive Move (ι : Type) where
  /-- A read goes on. -/
  | go (id : ι)
  /-- What is kept of a resource becomes too old. -/
  | age (resource : Resource)

/-- The resources of a feed, with the requests that are on their way. -/
structure Work (σ ι : Type) where
  traffic : Traffic σ ι
  /-- The next request of the fetch under way, if one was sent already. -/
  errand : Resource → Option Http.Errand

namespace Work

variable {σ ι : Type}

/-- Nothing is kept, and nothing was sent. -/
def start (state : σ) : Work σ ι := ⟨.start state, fun _ => none⟩

/-- Another state of one of the resources, of its fetch and of the line to the server. -/
def put (w : Work σ ι) (resource : Resource) (s : Shelf ι resource.Held)
    (errand : Option Http.Errand) (line : Http.Line σ) : Work σ ι :=
  ⟨w.traffic.put resource s line, fun other => if other = resource then errand else w.errand other⟩

section

variable [DecidableEq ι] (feed : Feed) (server : Http.Server σ) (wants : ι → Resource)

/-- The read goes on. If no fetch is under way it gets the lock, and is answered by what is kept or
starts a fetch; if its own fetch is, it sends the next request. Otherwise it waits. -/
def go (w : Work σ ι) (id : ι) : Work σ ι :=
  let s := w.traffic.shelf (wants id)
  match s.holder with
  | none =>
    if id ∈ s.answered then w
    else
      match usable feed.keeps s.kept with
      | some a => w.put (wants id) (s.use id a) none w.traffic.line
      | none => w.put (wants id) (s.hold id) none w.traffic.line
  | some holder =>
    if holder = id then
      match feed.advance server (wants id) (w.errand (wants id)) w.traffic.line with
      | (.onward next, line) => w.put (wants id) s (some next) line
      | (.ended outcome, line) => w.put (wants id) (s.store id outcome) none line
    else w

def move (w : Work σ ι) : Move ι → Work σ ι
  | .go id => w.go feed server wants id
  | .age resource =>
    w.put resource (w.traffic.shelf resource).age (w.errand resource) w.traffic.line

/-- What a schedule leads to. -/
def run (state : σ) (schedule : List (Move ι)) : Work σ ι :=
  schedule.foldl (move feed server wants) (start state)

end

/-! ## Every order is a schedule -/

@[simp] theorem shelf_put (w : Work σ ι) (resource : Resource) (s : Shelf ι resource.Held)
    (errand : Option Http.Errand) (line : Http.Line σ) :
    (w.put resource s errand line).traffic.shelf resource = s :=
  Traffic.shelf_put _ _ _ _

@[simp] theorem line_put (w : Work σ ι) (resource : Resource) (s : Shelf ι resource.Held)
    (errand : Option Http.Errand) (line : Http.Line σ) :
    (w.put resource s errand line).traffic.line = line :=
  Traffic.line_put _ _ _ _

@[simp] theorem errand_put (w : Work σ ι) (resource : Resource) (s : Shelf ι resource.Held)
    (errand : Option Http.Errand) (line : Http.Line σ) :
    (w.put resource s errand line).errand resource = errand :=
  if_pos rfl

@[simp] theorem put_put (w : Work σ ι) (resource : Resource) (s s' : Shelf ι resource.Held)
    (errand errand' : Option Http.Errand) (line line' : Http.Line σ) :
    (w.put resource s errand line).put resource s' errand' line'
      = w.put resource s' errand' line' := by
  have traffic : (w.traffic.put resource s line).put resource s' line'
      = w.traffic.put resource s' line' := by
    cases resource <;> rfl
  unfold put
  rw [traffic, Work.mk.injEq]
  refine ⟨rfl, funext fun other => ?_⟩
  dsimp only
  by_cases same : other = resource
  · rw [if_pos same, if_pos same]
  · rw [if_neg same, if_neg same, if_neg same]

theorem put_none (t : Traffic σ ι) {resource : Resource} {s : Shelf ι resource.Held}
    {line : Http.Line σ} :
    put ⟨t, fun _ => none⟩ resource s none line = ⟨t.put resource s line, fun _ => none⟩ := by
  unfold put
  rw [Work.mk.injEq]
  exact ⟨rfl, funext fun _ => ite_self none⟩

variable [DecidableEq ι] {feed : Feed} {server : Http.Server σ} {wants : ι → Resource}

theorem go_of_holds {w : Work σ ι} {id : ι}
    (holds : (w.traffic.shelf (wants id)).holder = some id) :
    w.go feed server wants id =
      match feed.advance server (wants id) (w.errand (wants id)) w.traffic.line with
      | (.onward next, line) => w.put (wants id) (w.traffic.shelf (wants id)) (some next) line
      | (.ended outcome, line) =>
        w.put (wants id) ((w.traffic.shelf (wants id)).store id outcome) none line := by
  unfold go
  dsimp only
  rw [holds]
  exact if_pos rfl

theorem go_of_used {w : Work σ ι} {id : ι} {a : (wants id).Held}
    (free : (w.traffic.shelf (wants id)).holder = none)
    (new : id ∉ (w.traffic.shelf (wants id)).answered)
    (found : usable feed.keeps (w.traffic.shelf (wants id)).kept = some a) :
    w.go feed server wants id
      = w.put (wants id) ((w.traffic.shelf (wants id)).use id a) none w.traffic.line := by
  unfold go
  dsimp only
  rw [free]
  dsimp only
  rw [if_neg new, found]

theorem go_of_began {w : Work σ ι} {id : ι}
    (free : (w.traffic.shelf (wants id)).holder = none)
    (new : id ∉ (w.traffic.shelf (wants id)).answered)
    (missing : usable feed.keeps (w.traffic.shelf (wants id)).kept = none) :
    w.go feed server wants id
      = w.put (wants id) ((w.traffic.shelf (wants id)).hold id) none w.traffic.line := by
  unfold go
  dsimp only
  rw [free]
  dsimp only
  rw [if_neg new, missing]

/-- The read that has the lock goes on until its fetch has ended. -/
theorem exists_goes (feed : Feed) (server : Http.Server σ) {w : Work σ ι} {id : ι}
    (holds : (w.traffic.shelf (wants id)).holder = some id) :
    ∃ n, (List.replicate n (.go id)).foldl (move feed server wants) w =
      w.put (wants id)
        ((w.traffic.shelf (wants id)).store id
          (feed.resume server (wants id) (w.errand (wants id)) w.traffic.line).1) none
        (feed.resume server (wants id) (w.errand (wants id)) w.traffic.line).2 := by
  -- each request leaves fewer that it can still be
  induction hl : left (w.errand (wants id)) using Nat.strongRecOn generalizing w with
  | ind l ih =>
    have step : w.go feed server wants id = _ := go_of_holds holds
    rw [resume_eq_advance]
    rcases sent : feed.advance server (wants id) (w.errand (wants id)) w.traffic.line with
      ⟨next | outcome, line⟩
    · rw [sent] at step
      dsimp only at step ⊢
      have fewer := left_lt_of_advance sent
      obtain ⟨n, rest⟩ := ih _ (hl ▸ fewer)
        (w := w.put (wants id) (w.traffic.shelf (wants id)) (some next) line)
        (by rw [shelf_put, holds]) (by rw [errand_put])
      refine ⟨n + 1, ?_⟩
      rw [List.replicate_succ, List.foldl_cons, move, step, rest]
      simp only [shelf_put, errand_put, line_put, put_put]
    · rw [sent] at step
      exact ⟨1, step⟩

theorem run_append (state : σ) (schedule more : List (Move ι)) :
    run feed server wants state (schedule ++ more)
      = more.foldl (move feed server wants) (run feed server wants state schedule) :=
  List.foldl_append

omit [DecidableEq ι] in
/-- The read that has the lock of a resource wants it. -/
theorem wants_of_holds {state : σ} {t : Traffic σ ι}
    (h : Traffic.Reachable feed server wants state t) {resource : Resource} {id : ι}
    (holds : (t.shelf resource).holder = some id) : wants id = resource := by
  induction h with
  | start => cases resource <;> cases holds
  | tail _ step ih =>
    obtain ⟨changed, event, line, next, rfl⟩ := Traffic.step_iff.mp step
    by_cases same : resource = changed
    · subst same
      rw [Traffic.shelf_put] at holds
      exact Shelf.mine_of_allows next holds
    · rw [Traffic.shelf_put_of_ne _ same] at holds
      exact ih holds

/-- **Whatever the reads can come to, a schedule leads there.** -/
theorem exists_schedule {state : σ} {t : Traffic σ ι}
    (h : Traffic.Reachable feed server wants state t) :
    ∃ schedule, run feed server wants state schedule = ⟨t, fun _ => none⟩ := by
  induction h with
  | start => exact ⟨[], rfl⟩
  | @tail t t' before step ih =>
    obtain ⟨schedule, led⟩ := ih
    obtain ⟨resource, event, line, next, rfl⟩ := Traffic.step_iff.mp step
    cases next with
    | @used id a turn found =>
      obtain rfl : wants id = resource := turn.own
      refine ⟨schedule ++ [.go id], ?_⟩
      rw [run_append, led, List.foldl_cons, List.foldl_nil, move,
        go_of_used turn.free turn.new found]
      exact put_none t
    | @began id turn missing =>
      obtain rfl : wants id = resource := turn.own
      refine ⟨schedule ++ [.go id], ?_⟩
      rw [run_append, led, List.foldl_cons, List.foldl_nil, move,
        go_of_began turn.free turn.new missing]
      exact put_none t
    | @ended id holds =>
      obtain rfl : wants id = resource := wants_of_holds before holds
      obtain ⟨n, gone⟩ := exists_goes feed server (w := ⟨t, fun _ => none⟩) holds
      refine ⟨schedule ++ .replicate n (.go id), ?_⟩
      rw [run_append, led, gone, ← fetch_eq_resume]
      exact put_none t

end Work

/-! ## One operation after the other -/

/-- What is asked of a feed, as of a moment. -/
inductive Operation where
  | read (now : Instant) (query : Query)
  | project (now : Instant) (rules : Rules) (assignment : Assignment)
  | settle (now : Instant) (rules : Rules) (assignments : Trio Assignment)
  /-- What is kept of a resource becomes too old. -/
  | age (resource : Resource)

/-- What it comes to. -/
inductive Operation.Result where
  | read (query : Query) (answer : Read query.Result)
  | projection (run : Run Projection)
  | settlement (run : Run (List SettlementRow))
  | nothing

section

variable {σ : Type} (feed : Feed) (server : Http.Server σ)

def perform : Operation → State σ → Operation.Result × State σ
  | .read now query, s =>
    let (answer, s) := feed.ask server now query s
    (.read query answer, s)
  | .project now rules assignment, s =>
    let (run, s) := feed.project server now rules assignment s
    (.projection run, s)
  | .settle now rules assignments, s =>
    let (run, s) := feed.settle server now rules assignments s
    (.settlement run, s)
  | .age resource, s => (.nothing, s.put resource none s.line)

def performAll : List Operation → State σ → List Operation.Result × State σ
  | [], s => ([], s)
  | operation :: rest, s =>
    let (result, s) := feed.perform server operation s
    let (results, s) := performAll rest s
    (result :: results, s)

end

end Feed

end LeagueWager
