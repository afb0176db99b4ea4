import LeagueWager.Proofs.Dump

/-!
# What becomes of a reply

A read of a feed that finds nothing to use fetches, and what becomes of it is settled in steps: the
request is made, sent, and sent on; the reply has a status and a text; the text has a value; the
value has what was asked for. Each step fails in its own way, and between the last two the value is
kept. Here each way is said of the replies of the server alone, and found to be just when a read
fails so.

* `Http.Server.ends_iff`: what comes of a request, reply by reply;
* `fetchText_cases`, `not_unreachable_iff`: a fetch gets a text, or the resource is unreachable;
* `Resource.decode_cases`, `Resource.not_garbled_iff`: a text has a value, or is garbled;
* `Query.select_eq_error_iff`: of a value, what is asked for is there, or is missing;
* `classification_of_replies`: all ways of a read, and what is kept after each.
-/

namespace LeagueWager

namespace Http.Server

variable {σ : Type} {server : Server σ} {line : Line σ} {request last : Request} {answer : Answer}
variable {n more : Nat}

/-! ## Replies that send a request on -/

/-- After `n` replies that send it on to where HTTP can ask, the request stands as `last` and gets
this answer. -/
inductive Comes (server : Server σ) : Nat → Line σ → Request → Request → Answer → Prop where
  | here {line : Line σ} {request : Request} :
    Comes server 0 line request request (server.ask line request).1
  | on {n : Nat} {line : Line σ} {request last : Request} {reply : Reply} {place : Address}
      {answer : Answer} (replied : (server.ask line request).1 = .reply reply)
      (sent : server.redirect? reply request.address = some place)
      (askable : place.isAskable = true)
      (rest : Comes server n (server.ask line request).2 { request with address := place } last
        answer) :
    Comes server (n + 1) line request last answer

theorem Comes.first (answered : (server.ask line request).1 = answer) :
    Comes server 0 line request request answer :=
  answered ▸ .here

/-- What comes of a request that may be sent on `more` times. -/
inductive Ends (server : Server σ) (more : Nat) (line : Line σ) (request : Request) :
    Outcome → Prop where
  | unanswered {n : Nat} {last : Request} (few : n ≤ more)
      (comes : Comes server n line request last .silence) :
    Ends server more line request (.unanswered last.address)
  | lost {last : Request} {reply : Reply} {place : Address}
      (comes : Comes server more line request last (.reply reply))
      (sent : server.redirect? reply last.address = some place) :
    Ends server more line request (.lost last.address)
  | barred {n : Nat} {last : Request} {reply : Reply} {place : Address} (few : n < more)
      (comes : Comes server n line request last (.reply reply))
      (sent : server.redirect? reply last.address = some place)
      (barred : place.isAskable = false) :
    Ends server more line request (.barred place)
  | page {n : Nat} {last : Request} {reply : Reply} (few : n ≤ more)
      (comes : Comes server n line request last (.reply reply))
      (stays : server.redirect? reply last.address = none) :
    Ends server more line request (.page reply)

/-- One reply more in front of an end. -/
theorem Ends.on {reply : Reply} {place : Address} {outcome : Outcome}
    (replied : (server.ask line request).1 = .reply reply)
    (sent : server.redirect? reply request.address = some place)
    (askable : place.isAskable = true)
    (ends : Ends server more (server.ask line request).2 { request with address := place }
      outcome) :
    Ends server (more + 1) line request outcome := by
  cases ends with
  | unanswered few comes =>
    exact .unanswered (Nat.succ_le_succ few) (.on replied sent askable comes)
  | lost comes again => exact .lost (.on replied sent askable comes) again
  | barred few comes again barred =>
    exact .barred (Nat.succ_lt_succ few) (.on replied sent askable comes) again barred
  | page few comes stays =>
    exact .page (Nat.succ_le_succ few) (.on replied sent askable comes) stays

/-- The answer that a request gets in the end decides what comes of it. -/
theorem get_of_comes (comes : Comes server n line request last answer) (few : n ≤ more) :
    (answer = .silence → (server.get more line request).1 = .unanswered last.address) ∧
      ∀ reply, answer = .reply reply →
        (server.redirect? reply last.address = none →
          (server.get more line request).1 = .page reply) ∧
        ∀ place, server.redirect? reply last.address = some place →
          (n = more → (server.get more line request).1 = .lost last.address) ∧
          (n < more → place.isAskable = false →
            (server.get more line request).1 = .barred place) := by
  induction comes generalizing more with
  | here =>
    refine ⟨fun silent => ?_, fun reply replied => ⟨fun stays => ?_, fun place sent => ⟨?_, ?_⟩⟩⟩
    · rw [get_of_silence silent]
    · rw [get_of_stays replied stays]
    · rintro rfl
      rw [get_zero_of_sent replied sent]
    · intro left barred
      obtain ⟨more, rfl⟩ := Nat.exists_eq_add_one_of_ne_zero (Nat.ne_of_gt left)
      rw [get_succ_of_barred replied sent barred]
  | @on n line request last reply place answer replied sent askable rest ih =>
    obtain ⟨more, rfl⟩ : ∃ m, more = m + 1 := ⟨more - 1, by omega⟩
    rw [get_succ_of_sent replied sent askable]
    simpa only [Nat.add_right_cancel_iff, Nat.add_lt_add_iff_right] using
      ih (Nat.le_of_succ_le_succ few)

theorem ends_get (server : Server σ) (more : Nat) (line : Line σ) (request : Request) :
    Ends server more line request (server.get more line request).1 := by
  cases answered : (server.ask line request).1 with
  | silence =>
    rw [get_of_silence answered]
    exact .unanswered (Nat.zero_le more) (.first answered)
  | reply reply =>
    have comes := Comes.first answered
    cases hr : server.redirect? reply request.address with
    | none =>
      rw [get_of_stays answered hr]
      exact .page (Nat.zero_le more) comes hr
    | some place =>
      cases more with
      | zero =>
        rw [get_zero_of_sent answered hr]
        exact .lost comes hr
      | succ more =>
        cases askable : place.isAskable with
        | false =>
          rw [get_succ_of_barred answered hr askable]
          exact .barred (Nat.succ_pos more) comes hr askable
        | true =>
          rw [get_succ_of_sent answered hr askable]
          exact (ends_get server more _ _).on answered hr askable

/-- **What comes of a request, reply by reply.** -/
theorem ends_iff {outcome : Outcome} :
    Ends server more line request outcome ↔ (server.get more line request).1 = outcome := by
  constructor
  · intro ends
    cases ends with
    | unanswered few comes => exact (get_of_comes comes few).1 rfl
    | lost comes sent =>
      exact (((get_of_comes comes (Nat.le_refl more)).2 _ rfl).2 _ sent).1 rfl
    | barred few comes sent barred =>
      exact (((get_of_comes comes (Nat.le_of_lt few)).2 _ rfl).2 _ sent).2 few barred
    | page few comes stays => exact ((get_of_comes comes few).2 _ rfl).1 stays
  · rintro rfl
    exact ends_get server more line request

end Http.Server

theorem Read.ofExcept_eq_failed_iff {α : Type} {x : Except ReadError α} {e : ReadError} :
    Read.ofExcept x = .failed e ↔ x = .error e := by
  cases x <;> simp [Read.ofExcept]

namespace Feed

variable {σ : Type} {feed : Feed} {server : Http.Server σ} {resource : Resource}
variable {line : Http.Line σ} {text : String}

/-! ## From a reply to its text -/

section

variable (feed : Feed) (server : Http.Server σ) (resource : Resource) (line : Http.Line σ)

/-- There is no text under the address of the resource. -/
inductive Unreachable : Prop where
  /-- The request cannot be made. -/
  | unmade {fault : String} (fails : feed.request (feed.address resource) = .error fault)
  /-- It cannot be sent, there or where it is sent on to. -/
  | unanswered {request : Http.Request} {place : Address}
      (made : feed.request (feed.address resource) = .ok request)
      (ends : server.Ends mostRedirects line request (.unanswered place))
  /-- It is sent on too often. -/
  | lost {request : Http.Request} {place : Address}
      (made : feed.request (feed.address resource) = .ok request)
      (ends : server.Ends mostRedirects line request (.lost place))
  /-- It is sent on to where HTTP cannot ask. -/
  | barred {request : Http.Request} {place : Address}
      (made : feed.request (feed.address resource) = .ok request)
      (ends : server.Ends mostRedirects line request (.barred place))
  /-- The last reply does not grant it, whatever its body is. -/
  | refused {request : Http.Request} {reply : Http.Reply}
      (made : feed.request (feed.address resource) = .ok request)
      (ends : server.Ends mostRedirects line request (.page reply))
      (status : reply.status < 200 ∨ 299 < reply.status)
  /-- The body of the last reply ends too soon. -/
  | broken {request : Http.Request} {reply : Http.Reply}
      (made : feed.request (feed.address resource) = .ok request)
      (ends : server.Ends mostRedirects line request (.page reply))
      (part : reply.isWhole = false)

/-- The last reply grants the request, and its body is this text. -/
structure Delivered (text : String) (request : Http.Request) (reply : Http.Reply) : Prop where
  made : feed.request (feed.address resource) = .ok request
  ends : server.Ends mostRedirects line request (.page reply)
  status : 200 ≤ reply.status ∧ reply.status ≤ 299
  whole : reply.isWhole = true
  body : server.textOf reply = text

/-- The text is what a fetch of the resource gets. -/
def Delivers (text : String) : Prop :=
  ∃ request reply, Delivered feed server resource line text request reply

end

theorem textOf_page (reading : Http.Reading) (reply : Http.Reply) :
    (∃ fault, textOf reading (.page reply) = .error fault) ∧
      ((reply.status < 200 ∨ 299 < reply.status) ∨ reply.isWhole = false) ∨
    textOf reading (.page reply) = .ok (reading.textOf reply) ∧
      (200 ≤ reply.status ∧ reply.status ≤ 299) ∧ reply.isWhole = true := by
  unfold textOf
  dsimp only
  cases granted : Http.isSuccess reply.status with
  | false =>
    have outside : ¬ (200 ≤ reply.status ∧ reply.status ≤ 299) := fun inside => by
      rw [Http.isSuccess_iff.mpr inside] at granted
      cases granted
    exact .inl ⟨⟨_, rfl⟩, .inl (by omega)⟩
  | true =>
    cases whole : reply.isWhole with
    | false => exact .inl ⟨⟨_, rfl⟩, .inr rfl⟩
    | true => exact .inr ⟨rfl, Http.isSuccess_iff.mp granted, rfl⟩

/-- **A fetch gets a text, or finds the resource unreachable**, and says which. -/
theorem fetchText_cases (feed : Feed) (server : Http.Server σ) (resource : Resource)
    (line : Http.Line σ) :
    (∃ text, (feed.fetchText server (feed.address resource) line).1 = .ok text ∧
        feed.Delivers server resource line text) ∨
      ∃ reason, (feed.fetchText server (feed.address resource) line).1
          = .error (.unavailable reason) ∧
        feed.Unreachable server resource line := by
  unfold fetchText
  cases made : feed.request (feed.address resource) with
  | error fault => exact .inr ⟨_, rfl, .unmade made⟩
  | ok request =>
    have ends := server.ends_get mostRedirects line request
    dsimp only
    cases got : (server.get mostRedirects line request).1 with
    | unanswered place => exact .inr ⟨_, rfl, .unanswered made (got ▸ ends)⟩
    | lost place => exact .inr ⟨_, rfl, .lost made (got ▸ ends)⟩
    | barred place => exact .inr ⟨_, rfl, .barred made (got ▸ ends)⟩
    | page reply =>
      rw [got] at ends
      rcases textOf_page server.toReading reply with
        ⟨⟨fault, failed⟩, status | part⟩ | ⟨found, status, whole⟩
      · rw [failed]
        exact .inr ⟨_, rfl, .refused made ends status⟩
      · rw [failed]
        exact .inr ⟨_, rfl, .broken made ends part⟩
      · rw [found]
        exact .inl ⟨_, rfl, request, reply, made, ends, status, whole, rfl⟩

/-- Whatever else comes of the same request is the same reply. -/
theorem Delivered.outcome_eq {request request' : Http.Request} {reply : Http.Reply}
    {outcome : Http.Outcome} (h : feed.Delivered server resource line text request reply)
    (made : feed.request (feed.address resource) = .ok request')
    (ends : server.Ends mostRedirects line request' outcome) : outcome = .page reply := by
  obtain rfl := Except.ok.inj (h.made.symm.trans made)
  exact (Http.Server.ends_iff.mp ends).symm.trans (Http.Server.ends_iff.mp h.ends)

theorem Delivers.unique {text' : String} (h : feed.Delivers server resource line text)
    (h' : feed.Delivers server resource line text') : text' = text := by
  obtain ⟨request, reply, h⟩ := h
  obtain ⟨request', reply', h'⟩ := h'
  obtain rfl := Http.Outcome.page.inj (h.outcome_eq h'.made h'.ends)
  exact h'.body.symm.trans h.body

theorem Delivers.not_unreachable (h : feed.Delivers server resource line text) :
    ¬ feed.Unreachable server resource line := by
  obtain ⟨request, reply, h⟩ := h
  intro unreachable
  cases unreachable with
  | unmade fails =>
    rw [h.made] at fails
    cases fails
  | unanswered made ends => cases h.outcome_eq made ends
  | lost made ends => cases h.outcome_eq made ends
  | barred made ends => cases h.outcome_eq made ends
  | refused made ends status =>
    obtain rfl := Http.Outcome.page.inj (h.outcome_eq made ends)
    have granted := h.status
    omega
  | broken made ends part =>
    obtain rfl := Http.Outcome.page.inj (h.outcome_eq made ends)
    rw [h.whole] at part
    cases part

theorem fetchText_of_delivers (h : feed.Delivers server resource line text) :
    (feed.fetchText server (feed.address resource) line).1 = .ok text := by
  rcases fetchText_cases feed server resource line with ⟨text', found, other⟩ | ⟨_, _, unreachable⟩
  · rw [found, h.unique other]
  · exact absurd unreachable h.not_unreachable

theorem fetchText_of_unreachable (h : feed.Unreachable server resource line) :
    ∃ reason, (feed.fetchText server (feed.address resource) line).1
      = .error (.unavailable reason) := by
  rcases fetchText_cases feed server resource line with ⟨_, _, delivers⟩ | ⟨reason, failed, _⟩
  · exact absurd h delivers.not_unreachable
  · exact ⟨reason, failed⟩

theorem not_unreachable_iff :
    ¬ feed.Unreachable server resource line ↔ ∃ text, feed.Delivers server resource line text := by
  constructor
  · intro reachable
    rcases fetchText_cases feed server resource line with ⟨text, _, delivers⟩ | ⟨_, _, unreachable⟩
    · exact ⟨text, delivers⟩
    · exact absurd unreachable reachable
  · rintro ⟨text, delivers⟩
    exact delivers.not_unreachable

/-! ## From a text to its value -/

/-- The text says that the resource holds this: the rows of the first table that counts all games,
or the fixtures. -/
inductive Resource.Decodes : (resource : Resource) → String → resource.Held → Prop where
  | tables {text : String} {before after : List Table} {table : Table}
      (read : Json.decode Feed.tables text = .ok (before ++ table :: after))
      (others : ∀ t ∈ before, t.kind ≠ totalKind) (total : table.kind = totalKind) :
    Decodes .tables text table.rows
  | fixtures {text : String} {games : List Fixture}
      (read : Json.decode Feed.fixtures text = .ok games) : Decodes .fixtures text games

/-- The text says nothing of the resource. -/
inductive Resource.Garbled : Resource → String → Prop where
  | tables {text : String} (unread : ∀ served, Json.decode Feed.tables text ≠ .ok served) :
    Garbled .tables text
  /-- No table counts all games. -/
  | noTotal {text : String} {served : List Table} (read : Json.decode Feed.tables text = .ok served)
      (none : ∀ t ∈ served, t.kind ≠ totalKind) : Garbled .tables text
  | fixtures {text : String} (unread : ∀ games, Json.decode Feed.fixtures text ≠ .ok games) :
    Garbled .fixtures text

theorem decoded_cases {α : Type} (read : Json.Decoder α) (text : String) :
    (∃ a, decoded read text = .ok a ∧ Json.decode read text = .ok a) ∨
      ∃ reason, decoded read text = .error (.undecodable reason) ∧
        ∀ a, Json.decode read text ≠ .ok a := by
  unfold decoded
  cases Json.decode read text with
  | ok a => exact .inl ⟨a, rfl, rfl⟩
  | error e =>
    refine .inr ⟨_, rfl, fun a same => ?_⟩
    cases same

theorem pick_cases (served : List Table) :
    (∃ before table after, served = before ++ table :: after ∧
        (∀ t ∈ before, t.kind ≠ totalKind) ∧ table.kind = totalKind ∧
        pick served = .ok table.rows) ∨
      (∀ t ∈ served, t.kind ≠ totalKind) ∧
        ∃ reason, pick served = .error (.undecodable reason) := by
  unfold pick
  cases found : served.find? (·.kind == totalKind) with
  | some table =>
    obtain ⟨total, before, after, rfl, others⟩ := List.find?_eq_some_iff_append.mp found
    refine .inl ⟨before, table, after, rfl, fun t ht => ?_, beq_iff_eq.mp total, rfl⟩
    simpa using others t ht
  | none =>
    refine .inr ⟨fun t ht => ?_, _, rfl⟩
    simpa using List.find?_eq_none.mp found t ht

/-- **A text has a value, or is garbled.** -/
theorem Resource.decode_cases (resource : Resource) (text : String) :
    (∃ held, resource.decode text = .ok held ∧ resource.Decodes text held) ∨
      ∃ reason, resource.decode text = .error (.undecodable reason) ∧ resource.Garbled text := by
  cases resource with
  | tables =>
    show (∃ held, rowsOf text = .ok held ∧ Decodes .tables text held) ∨
      ∃ reason, rowsOf text = .error (.undecodable reason) ∧ Garbled .tables text
    unfold rowsOf
    rcases decoded_cases Feed.tables text with ⟨served, decoded, read⟩ | ⟨reason, failed, unread⟩
    · rw [decoded]
      rcases pick_cases served with ⟨before, table, after, rfl, others, total, picked⟩ |
        ⟨none, reason, failed⟩
      · exact .inl ⟨table.rows, picked, .tables read others total⟩
      · exact .inr ⟨reason, failed, .noTotal read none⟩
    · rw [failed]
      exact .inr ⟨reason, rfl, .tables unread⟩
  | fixtures =>
    show (∃ held, fixturesOf text = .ok held ∧ Decodes .fixtures text held) ∨
      ∃ reason, fixturesOf text = .error (.undecodable reason) ∧ Garbled .fixtures text
    unfold fixturesOf
    rcases decoded_cases Feed.fixtures text with ⟨games, decoded, read⟩ | ⟨reason, failed, unread⟩
    · exact .inl ⟨games, decoded, .fixtures read⟩
    · exact .inr ⟨reason, failed, .fixtures unread⟩

theorem Resource.Decodes.decode_eq {held : resource.Held} (h : resource.Decodes text held) :
    resource.decode text = .ok held := by
  cases h with
  | tables read others total =>
    show rowsOf text = _
    unfold rowsOf decoded
    rw [read]
    exact pick_of_total others total
  | fixtures read =>
    show fixturesOf text = _
    unfold fixturesOf decoded
    rw [read]

theorem Resource.Decodes.not_garbled {held : resource.Held} (h : resource.Decodes text held) :
    ¬ resource.Garbled text := by
  intro garbled
  cases h with
  | tables read others total =>
    cases garbled with
    | tables unread => exact unread _ read
    | noTotal read' none =>
      obtain rfl := Except.ok.inj (read.symm.trans read')
      exact none _ (List.mem_append_right _ List.mem_cons_self) total
  | fixtures read =>
    cases garbled with
    | fixtures unread => exact unread _ read

theorem Resource.Garbled.decode_eq (h : resource.Garbled text) :
    ∃ reason, resource.decode text = .error (.undecodable reason) := by
  rcases resource.decode_cases text with ⟨held, _, decodes⟩ | ⟨reason, failed, _⟩
  · exact absurd h decodes.not_garbled
  · exact ⟨reason, failed⟩

theorem Resource.not_garbled_iff :
    ¬ resource.Garbled text ↔ ∃ held, resource.Decodes text held := by
  constructor
  · intro plain
    rcases resource.decode_cases text with ⟨held, _, decodes⟩ | ⟨_, _, garbled⟩
    · exact ⟨held, decodes⟩
    · exact absurd garbled plain
  · rintro ⟨held, decodes⟩
    exact decodes.not_garbled

/-! ## From a value to what was asked for -/

namespace Query

/-- There is no such record, and the failure names it: of what kind it is, and of which team. -/
inductive Misses (now : Instant) : (query : Query) → query.resource.Held → ReadError → Prop where
  | leagueEntry {team : String} {rows : List Standing}
      (none : ∀ row ∈ rows, row.team.answersTo team = false) :
    Misses now (.leagueEntry team) rows (.notFound .leagueEntry team)
  /-- No fixture of the team has kicked off. -/
  | latestMatch {team : String} {games : List Fixture}
      (none : ∀ f ∈ games, ¬ (f.involves team = true ∧ f.kickOff ≤ now)) :
    Misses now (.latestMatch team) games (.notFound .latestMatch team)

/-- This is what was asked for. -/
inductive Finds (now : Instant) : (query : Query) → query.resource.Held → query.Result → Prop where
  /-- The first row whose team answers to the name. -/
  | leagueEntry {team : String} {before after : List Standing} {row : Standing}
      (others : ∀ other ∈ before, other.team.answersTo team = false)
      (answers : row.team.answersTo team = true) :
    Finds now (.leagueEntry team) (before ++ row :: after) row
  /-- All fixtures between the two, which may be none. -/
  | headToHead {a b : String} {games : List Fixture} :
    Finds now (.headToHead a b) games (games.filter fun f => f.isBetween a b)
  | latestMatch {team : String} {games : List Fixture} {f : Fixture} (mem : f ∈ games)
      (plays : f.involves team = true) (started : f.kickOff ≤ now) :
    Finds now (.latestMatch team) games f

variable {now : Instant} {query : Query} {held : query.resource.Held}

theorem Finds.of_select {a : query.Result} (h : query.select now held = .ok a) :
    query.Finds now held a := by
  cases query with
  | leagueEntry team =>
    replace h : Snapshot.leagueEntry held team = .ok a := h
    unfold Snapshot.leagueEntry at h
    split at h
    · rename_i row found
      cases h
      obtain ⟨answers, before, after, rfl, others⟩ := List.find?_eq_some_iff_append.mp found
      exact .leagueEntry (fun other mem => by simpa using others other mem) answers
    · cases h
  | headToHead a b =>
    cases h
    exact .headToHead
  | latestMatch team =>
    obtain ⟨mem, plays, started⟩ := Snapshot.mem_of_latestMatch h
    exact .latestMatch mem plays started

/-- **A record is missing exactly if nothing answers to the name.** -/
theorem select_eq_error_iff {e : ReadError} :
    query.select now held = .error e ↔ query.Misses now held e := by
  constructor
  · intro h
    cases query with
    | leagueEntry team =>
      replace h : Snapshot.leagueEntry held team = .error e := h
      unfold Snapshot.leagueEntry at h
      split at h
      · cases h
      · rename_i none
        cases h
        exact .leagueEntry fun row mem => by simpa using List.find?_eq_none.mp none row mem
    | headToHead a b => cases h
    | latestMatch team =>
      obtain ⟨rfl, none⟩ := Snapshot.latestMatch_eq_error_iff.mp h
      exact .latestMatch none
  · intro misses
    cases misses with
    | @leagueEntry team rows none =>
      have found : rows.find? (fun row => row.team.answersTo team) = .none :=
        List.find?_eq_none.mpr fun row mem => by simp [none row mem]
      show Snapshot.leagueEntry rows team = _
      unfold Snapshot.leagueEntry
      rw [found]
    | latestMatch none => exact Snapshot.latestMatch_eq_error_iff.mpr ⟨rfl, none⟩

end Query

/-! ## What is kept -/

/-- A read that finds nothing to use answers with what it fetches. -/
theorem read_fst_of_missing {s : State σ}
    (missing : usable feed.keeps (s.kept resource) = none) :
    (feed.read server resource s).1 = (feed.fetch server resource s.line).1 := by
  rw [read_eq]
  unfold reuse
  rw [missing]

/-- It keeps what it fetches, and nothing if that fails. -/
theorem kept_read_of_missing {s : State σ}
    (missing : usable feed.keeps (s.kept resource) = none) :
    (feed.read server resource s).2.kept resource
      = keptAfter (s.kept resource) (feed.fetch server resource s.line).1 := by
  rw [read_eq, State.kept_put]
  unfold reuse
  rw [missing]

/-- A read leaves what is kept of the other resource. -/
theorem kept_read_of_ne {s : State σ} {other : Resource} (ne : other ≠ resource) :
    (feed.read server resource s).2.kept other = s.kept other := by
  rw [read_eq, State.kept_put_of_ne _ ne]

/-! ## All together -/

theorem fetch_of_unreachable (h : feed.Unreachable server resource line) :
    ∃ reason, (feed.fetch server resource line).1 = .error (.unavailable reason) := by
  obtain ⟨reason, failed⟩ := fetchText_of_unreachable h
  exact ⟨reason, by rw [fetch_eq, failed]; rfl⟩

theorem fetch_of_garbled (h : feed.Delivers server resource line text)
    (garbled : resource.Garbled text) :
    ∃ reason, (feed.fetch server resource line).1 = .error (.undecodable reason) := by
  obtain ⟨reason, failed⟩ := garbled.decode_eq
  exact ⟨reason, by rw [fetch_eq, fetchText_of_delivers h]; exact failed⟩

theorem fetch_of_decodes {held : resource.Held} (h : feed.Delivers server resource line text)
    (decodes : resource.Decodes text held) :
    (feed.fetch server resource line).1 = .ok held := by
  rw [fetch_eq, fetchText_of_delivers h]
  exact decodes.decode_eq

section

variable (server) (now : Instant) {query : Query} {s : State σ}
variable (missing : usable feed.keeps (s.kept query.resource) = none)

include missing

theorem ask_of_missing :
    (feed.ask server now query s).1
        = query.answer now (feed.fetch server query.resource s.line).1 ∧
      (feed.ask server now query s).2.kept query.resource
        = keptAfter (s.kept query.resource) (feed.fetch server query.resource s.line).1 := by
  rw [answer_ask]
  dsimp only
  rw [read_fst_of_missing missing, kept_read_of_missing missing]
  exact ⟨rfl, rfl⟩

omit missing in
theorem kept_ask_of_ne {other : Resource} (ne : other ≠ query.resource) :
    (feed.ask server now query s).2.kept other = s.kept other := by
  rw [answer_ask]
  exact kept_read_of_ne ne

/-- A fetch that fails fails the read, and leaves all that is kept. -/
theorem ask_of_failed {e : ReadError} (h : (feed.fetch server query.resource s.line).1 = .error e) :
    (feed.ask server now query s).1 = .failed e ∧
      ∀ resource, (feed.ask server now query s).2.kept resource = s.kept resource := by
  obtain ⟨answer, kept⟩ := ask_of_missing server now missing
  rw [h] at answer kept
  refine ⟨answer, fun resource => ?_⟩
  by_cases same : resource = query.resource
  · subst same
    exact kept
  · exact kept_ask_of_ne server now same

/-- A fetch that succeeds is kept, whether or not it has what was asked for. -/
theorem ask_of_fetched {held : query.resource.Held}
    (h : (feed.fetch server query.resource s.line).1 = .ok held) :
    (feed.ask server now query s).1 = .ofExcept (query.select now held) ∧
      (feed.ask server now query s).2.kept query.resource = some held := by
  obtain ⟨answer, kept⟩ := ask_of_missing server now missing
  rw [h] at answer kept
  exact ⟨answer, kept⟩

theorem ask_of_unreachable (h : feed.Unreachable server query.resource s.line) :
    ∃ reason, (feed.ask server now query s).1 = .failed (.unavailable reason) ∧
      ∀ resource, (feed.ask server now query s).2.kept resource = s.kept resource := by
  obtain ⟨reason, failed⟩ := fetch_of_unreachable h
  exact ⟨reason, ask_of_failed server now missing failed⟩

theorem ask_of_garbled (h : feed.Delivers server query.resource s.line text)
    (garbled : query.resource.Garbled text) :
    ∃ reason, (feed.ask server now query s).1 = .failed (.undecodable reason) ∧
      ∀ resource, (feed.ask server now query s).2.kept resource = s.kept resource := by
  obtain ⟨reason, failed⟩ := fetch_of_garbled h garbled
  exact ⟨reason, ask_of_failed server now missing failed⟩

theorem ask_of_decodes {held : query.resource.Held}
    (h : feed.Delivers server query.resource s.line text)
    (decodes : query.resource.Decodes text held) :
    (feed.ask server now query s).1 = .ofExcept (query.select now held) ∧
      (feed.ask server now query s).2.kept query.resource = some held :=
  ask_of_fetched server now missing (fetch_of_decodes h decodes)

/-- Of a value that is there, a read misses a record or finds it. -/
theorem ask_eq_failed_iff {held : query.resource.Held} {e : ReadError}
    (h : feed.Delivers server query.resource s.line text)
    (decodes : query.resource.Decodes text held) :
    (feed.ask server now query s).1 = .failed e ↔ query.Misses now held e := by
  rw [(ask_of_decodes server now missing h decodes).1, Read.ofExcept_eq_failed_iff]
  exact Query.select_eq_error_iff

end

/-- How a read ends, and what is kept after it. -/
structure Classified (feed : Feed) (server : Http.Server σ) (now : Instant) (query : Query)
    (s : State σ) : Prop where
  /-- It fails for want of a text, … -/
  unavailable : (∃ reason, (feed.ask server now query s).1 = .failed (.unavailable reason)) ↔
    feed.Unreachable server query.resource s.line
  reachable : ¬ feed.Unreachable server query.resource s.line ↔
    ∃ text, feed.Delivers server query.resource s.line text
  /-- … or for want of a value of the text, … -/
  undecodable : ∀ text, feed.Delivers server query.resource s.line text →
    ((∃ reason, (feed.ask server now query s).1 = .failed (.undecodable reason)) ↔
      query.resource.Garbled text)
  readable : ∀ text, ¬ query.resource.Garbled text ↔ ∃ held, query.resource.Decodes text held
  /-- … or for want of what was asked for; … -/
  missed : ∀ text held, feed.Delivers server query.resource s.line text →
    query.resource.Decodes text held →
    ∀ e, (feed.ask server now query s).1 = .failed e ↔ query.Misses now held e
  /-- … otherwise it succeeds. -/
  found : ∀ text held, feed.Delivers server query.resource s.line text →
    query.resource.Decodes text held → (∀ e, ¬ query.Misses now held e) →
    ∃ a, (feed.ask server now query s).1 = .value a ∧ query.Finds now held a
  /-- What is kept changes only if there is a value. -/
  unchanged : feed.Unreachable server query.resource s.line ∨
      (∃ text, feed.Delivers server query.resource s.line text ∧ query.resource.Garbled text) →
    ∀ resource, (feed.ask server now query s).2.kept resource = s.kept resource
  /-- Then it is kept, be there a record or not. -/
  stored : ∀ text held, feed.Delivers server query.resource s.line text →
    query.resource.Decodes text held →
    (feed.ask server now query s).2.kept query.resource = some held ∧
      ∀ other, other ≠ query.resource →
        (feed.ask server now query s).2.kept other = s.kept other

/-- **Every reply has its place.** Whatever the server does, a read that finds nothing to use is
unavailable exactly if the request cannot be made, sent or sent on, or its last reply does not grant
it or breaks off; otherwise it does not decode exactly if the text has no value, or no table counts
all games; otherwise it misses a record, of its own kind and of the team asked for, exactly if no
row or no fixture that has kicked off answers to the team, and it succeeds if not. The fixtures
between two teams are always found, be there none. What is kept is left as it was by the first two,
and is the value that was fetched after the others. -/
theorem classification_of_replies (feed : Feed) (server : Http.Server σ) (now : Instant)
    (query : Query) (s : State σ) (missing : usable feed.keeps (s.kept query.resource) = none) :
    feed.Classified server now query s ∧
      ∀ a b e held, ¬ (Query.headToHead a b).Misses now held e := by
  refine ⟨⟨⟨?_, ?_⟩, not_unreachable_iff, fun text delivers => ⟨?_, ?_⟩,
    fun text => Resource.not_garbled_iff, fun text held delivers decodes e => ?_,
    fun text held delivers decodes finds => ?_, ?_, fun text held delivers decodes => ?_⟩, ?_⟩
  · rintro ⟨reason, unavailable⟩
    refine Classical.byContradiction fun reachable => ?_
    obtain ⟨text, delivers⟩ := not_unreachable_iff.mp reachable
    by_cases garbled : query.resource.Garbled text
    · obtain ⟨_, undecodable, _⟩ := ask_of_garbled server now missing delivers garbled
      rw [unavailable] at undecodable
      cases undecodable
    · obtain ⟨held, decodes⟩ := Resource.not_garbled_iff.mp garbled
      cases (ask_eq_failed_iff server now missing delivers decodes).mp unavailable
  · intro unreachable
    obtain ⟨reason, unavailable, _⟩ := ask_of_unreachable server now missing unreachable
    exact ⟨reason, unavailable⟩
  · rintro ⟨reason, undecodable⟩
    refine Classical.byContradiction fun plain => ?_
    obtain ⟨held, decodes⟩ := Resource.not_garbled_iff.mp plain
    cases (ask_eq_failed_iff server now missing delivers decodes).mp undecodable
  · intro garbled
    obtain ⟨reason, undecodable, _⟩ := ask_of_garbled server now missing delivers garbled
    exact ⟨reason, undecodable⟩
  · exact ask_eq_failed_iff server now missing delivers decodes
  · have answer := (ask_of_decodes server now missing delivers decodes).1
    cases selected : query.select now held with
    | ok a =>
      rw [selected] at answer
      exact ⟨a, answer, .of_select selected⟩
    | error e => exact absurd (Query.select_eq_error_iff.mp selected) (finds e)
  · rintro (unreachable | ⟨text, delivers, garbled⟩)
    · obtain ⟨_, _, kept⟩ := ask_of_unreachable server now missing unreachable
      exact kept
    · obtain ⟨_, _, kept⟩ := ask_of_garbled server now missing delivers garbled
      exact kept
  · have kept := (ask_of_decodes server now missing delivers decodes).2
    exact ⟨kept, fun other ne => kept_ask_of_ne server now ne⟩
  · intro a b e held misses
    cases misses

/-! ## Replies one after the other -/

theorem kept_fresh (state : σ) (resource : Resource) :
    (State.fresh state).kept resource = none := by
  cases resource <;> rfl

theorem usable_fresh (feed : Feed) (state : σ) (resource : Resource) :
    usable feed.keeps ((State.fresh state).kept resource) = none := by
  rw [kept_fresh]
  exact ite_self none

open Traffic (nearFeed)

/-- A server that gives these replies one after the other, and none after the last. -/
def scripted : Http.Server (List Http.Reply) where
  toReading := .plain
  answer replies _ :=
    match replies with
    | [] => (.silence, [])
    | reply :: rest => (.reply reply, rest)

/-- What a read comes to that gets these replies. -/
def afterReplies (query : Query) (replies : List Http.Reply) :
    Read query.Result × State (List Http.Reply) :=
  nearFeed.ask scripted ⟨86400, 0⟩ query (.fresh replies)

/-- It fails in this way, and nothing is kept. -/
def Fails (way : String → ReadError) (query : Query) (replies : List Http.Reply) : Prop :=
  (∃ reason, (afterReplies query replies).1 = .failed (way reason)) ∧
    ∀ resource, (afterReplies query replies).2.kept resource = none

/-- It is answered so, and this is kept. -/
def Answers (query : Query) (replies : List Http.Reply) (answer : Read query.Result)
    (held : query.resource.Held) : Prop :=
  (afterReplies query replies).1 = answer ∧
    (afterReplies query replies).2.kept query.resource = some held

/-- A reply that sends the request to this place. -/
def sending (place : String) : Http.Reply := ⟨302, some place, none, .empty, true⟩

/-- The tables without the one that counts all games. -/
def homeTables : List Table := [⟨"HOME", [smallRow]⟩]

section

variable {query : Query} {replies : List Http.Reply} {held : query.resource.Held}
variable (ways : nearFeed.Classified scripted ⟨86400, 0⟩ query (.fresh replies))

include ways

theorem Classified.fails_unavailable
    (h : nearFeed.Unreachable scripted query.resource (State.fresh replies).line) :
    Fails .unavailable query replies :=
  ⟨ways.unavailable.mpr h, fun resource =>
    (ways.unchanged (.inl h) resource).trans (kept_fresh replies resource)⟩

theorem Classified.fails_undecodable
    (h : nearFeed.Delivers scripted query.resource (State.fresh replies).line text)
    (garbled : query.resource.Garbled text) : Fails .undecodable query replies :=
  ⟨(ways.undecodable text h).mpr garbled, fun resource =>
    (ways.unchanged (.inr ⟨text, h, garbled⟩) resource).trans (kept_fresh replies resource)⟩

theorem Classified.answers_missing
    (h : nearFeed.Delivers scripted query.resource (State.fresh replies).line text)
    (decodes : query.resource.Decodes text held) {e : ReadError}
    (misses : query.Misses ⟨86400, 0⟩ held e) : Answers query replies (.failed e) held :=
  ⟨(ways.missed text held h decodes e).mpr misses, (ways.stored text held h decodes).1⟩

/-- What is found is the one thing that can be. -/
theorem Classified.answers_found
    (h : nearFeed.Delivers scripted query.resource (State.fresh replies).line text)
    (decodes : query.resource.Decodes text held) {a : query.Result}
    (there : ∀ e, ¬ query.Misses ⟨86400, 0⟩ held e)
    (only : ∀ a', query.Finds ⟨86400, 0⟩ held a' → a' = a) :
    Answers query replies (.value a) held := by
  obtain ⟨a', value, finds⟩ := ways.found text held h decodes there
  exact ⟨only a' finds ▸ value, (ways.stored text held h decodes).1⟩

end

section

variable {resource : Resource} {request : Http.Request} {rest : List Http.Reply}

/-- The first reply is the last, if it sends nobody on. -/
theorem ends_scripted {reply : Http.Reply} (stays : Http.isRedirect reply.status = false) :
    scripted.Ends mostRedirects (State.fresh (reply :: rest)).line request (.page reply) :=
  .page (Nat.zero_le _) (.first rfl) (Http.Reading.redirect?_of_stays stays _)

theorem delivers_of_granting {line : Http.Line (List Http.Reply)}
    (made : nearFeed.request (nearFeed.address resource) = .ok request)
    (ends : scripted.Ends mostRedirects line request (.page (.granting text))) :
    nearFeed.Delivers scripted resource line text := by
  have status : 200 ≤ (Http.Reply.granting text).status ∧ (Http.Reply.granting text).status ≤ 299 :=
    Http.isSuccess_iff.mp rfl
  exact ⟨request, .granting text, made, ends, status, rfl, Http.Reading.plain_granting text⟩

theorem delivers_granting (h : requestFor resource ≠ none) (text : String) :
    nearFeed.Delivers scripted resource (State.fresh (.granting text :: rest)).line text := by
  obtain ⟨request, made, _⟩ := exists_request h
  exact delivers_of_granting made (ends_scripted rfl)

/-- Where the request for the tables is sent on to. -/
def sentTo (place : String) : Option Address := do
  let request ← requestFor .tables
  scripted.redirect? (sending place) request.address

/-- The request that is made is sent on there. -/
theorem exists_sent {place : String} {askable : Bool}
    (h : (sentTo place).map (·.isAskable) = some askable) :
    ∃ request elsewhere, nearFeed.request (nearFeed.address .tables) = .ok request ∧
      scripted.redirect? (sending place) request.address = some elsewhere ∧
      elsewhere.isAskable = askable := by
  obtain ⟨request, made, same⟩ := exists_request requestFor_ne.1
  obtain ⟨elsewhere, sent, askable⟩ := Option.map_eq_some_iff.mp h
  unfold sentTo at sent
  rw [same] at sent
  exact ⟨request, elsewhere, made, sent, askable⟩

theorem unreachable_sending {place : String} (h : (sentTo place).map (·.isAskable) = some false) :
    nearFeed.Unreachable scripted .tables (State.fresh (sending place :: rest)).line := by
  obtain ⟨request, elsewhere, made, sent, barred⟩ := exists_sent h
  exact .barred made (.barred (by decide) (.first rfl) sent barred)

/-- Sent on once, the request gets its text there. -/
theorem delivers_sending {place : String} (h : (sentTo place).map (·.isAskable) = some true)
    (text : String) :
    nearFeed.Delivers scripted .tables
      (State.fresh (sending place :: .granting text :: rest)).line text := by
  obtain ⟨request, elsewhere, made, sent, askable⟩ := exists_sent h
  have comes : scripted.Comes 1 (State.fresh (sending place :: .granting text :: rest)).line request
      { request with address := elsewhere } (.reply (.granting text)) :=
    .on rfl sent askable .here
  exact delivers_of_granting made (.page (by decide) comes (Http.Reading.redirect?_of_stays rfl _))

end

theorem garbled_page : Resource.Garbled .tables "<html>" := by
  have unread : (Json.decode Feed.tables "<html>").toOption = none := by decide +kernel
  refine .tables fun served read => ?_
  rw [read] at unread
  cases unread

theorem garbled_homeTables : Resource.Garbled .tables (writeTables homeTables).render :=
  .noTotal (Json.decode_render (recovers_tables homeTables)) (by decide)

theorem decodes_smallTables :
    Resource.Decodes .tables (writeTables smallTables).render [smallRow] := by
  have read : Json.decode tables (writeTables smallTables).render
      = .ok ([⟨"HOME", []⟩] ++ ⟨totalKind, [smallRow]⟩ :: []) :=
    Json.decode_render (recovers_tables smallTables)
  exact .tables read (by decide) rfl

theorem decodes_noFixtures : Resource.Decodes .fixtures (writeFixtures []).render [] := by
  refine .fixtures (Json.decode_render (recovers_fixtures fun f mem => ?_))
  cases mem

/-- A row that is found in the small table is its only one. -/
theorem finds_smallRow {team : String} {rows : List Standing} {row : Standing}
    (only : rows = [smallRow]) (h : (Query.leagueEntry team).Finds ⟨86400, 0⟩ rows row) :
    row = smallRow := by
  cases h with
  | @leagueEntry _ before _ _ others answers =>
    have mem : row ∈ [smallRow] := only ▸ List.mem_append_right before List.mem_cons_self
    exact List.mem_singleton.mp mem

theorem answersTo_smallRow : smallRow.team.answersTo "Chelsea" = true ∧
    smallRow.team.answersTo "Everton" = false := by
  decide +kernel

/-- Chelsea is there, so it is not missed. -/
theorem not_misses_smallRow (e : ReadError) :
    ¬ (Query.leagueEntry "Chelsea").Misses ⟨86400, 0⟩ [smallRow] e := by
  intro misses
  cases misses with
  | leagueEntry none =>
    have there := answersTo_smallRow.1
    rw [none smallRow List.mem_cons_self] at there
    cases there

/-- Without a reply, with one that refuses or breaks off, and sent on to where HTTP cannot ask, the
table is not there; a page and tables without the right one do not say what it is; Everton is
missing in the table, and Chelsea found, also elsewhere; nothing has kicked off where there are no
fixtures. -/
theorem classification_of_scripted :
    (∀ replies ∈ [[], [⟨503, none, none, (writeTables smallTables).render.toUTF8, true⟩],
        [⟨200, none, none, (writeTables smallTables).render.toUTF8, false⟩],
        [sending "ftp://example.org/standings", .granting (writeTables smallTables).render]],
      Fails .unavailable (.leagueEntry "Chelsea") replies) ∧
    (∀ text ∈ ["<html>", (writeTables homeTables).render],
      Fails .undecodable (.leagueEntry "Chelsea") [.granting text]) ∧
    Answers (.leagueEntry "Everton") [.granting (writeTables smallTables).render]
      (.failed (.notFound .leagueEntry "Everton")) [smallRow] ∧
    (∀ replies ∈ [[.granting (writeTables smallTables).render],
        [sending "/v4/standings", .granting (writeTables smallTables).render]],
      Answers (.leagueEntry "Chelsea") replies (.value smallRow) [smallRow]) ∧
    Answers (.latestMatch "Chelsea") [.granting (writeFixtures []).render]
      (.failed (.notFound .latestMatch "Chelsea")) [] ∧
    Answers (.headToHead "Chelsea" "Tottenham") [.granting (writeFixtures []).render]
      (.value []) [] := by
  have ways (query : Query) (replies : List Http.Reply) :
      nearFeed.Classified scripted ⟨86400, 0⟩ query (.fresh replies) :=
    (classification_of_replies nearFeed scripted ⟨86400, 0⟩ query (.fresh replies)
      (usable_fresh nearFeed replies query.resource)).1
  obtain ⟨tables, fixtures, _⟩ := requestFor_ne
  obtain ⟨request, made, _⟩ := exists_request tables
  refine ⟨?_, ?_, ?_, ?_, ?_, ?_⟩
  · intro replies mem
    refine (ways _ replies).fails_unavailable ?_
    simp only [List.mem_cons, List.not_mem_nil, or_false] at mem
    obtain rfl | rfl | rfl | rfl := mem
    · exact .unanswered made (.unanswered (Nat.zero_le _) (.first rfl))
    · exact .refused made (ends_scripted rfl) (.inr (by decide))
    · exact .broken made (ends_scripted rfl) rfl
    · exact unreachable_sending (by decide +kernel)
  · intro text mem
    refine (ways _ _).fails_undecodable (delivers_granting tables text) ?_
    simp only [List.mem_cons, List.not_mem_nil, or_false] at mem
    obtain rfl | rfl := mem
    · exact garbled_page
    · exact garbled_homeTables
  · refine (ways (.leagueEntry "Everton") _).answers_missing (delivers_granting tables _)
      decodes_smallTables (.leagueEntry fun row mem => ?_)
    rw [List.mem_singleton.mp mem]
    exact answersTo_smallRow.2
  · intro replies mem
    have delivers : nearFeed.Delivers scripted .tables (State.fresh replies).line
        (writeTables smallTables).render := by
      simp only [List.mem_cons, List.not_mem_nil, or_false] at mem
      obtain rfl | rfl := mem
      · exact delivers_granting tables _
      · exact delivers_sending (by decide +kernel) _
    exact (ways (.leagueEntry "Chelsea") replies).answers_found delivers decodes_smallTables
      not_misses_smallRow fun row finds => finds_smallRow rfl finds
  · refine (ways (.latestMatch "Chelsea") _).answers_missing (delivers_granting fixtures _)
      decodes_noFixtures (.latestMatch fun f mem => ?_)
    cases mem
  · refine (ways (.headToHead "Chelsea" "Tottenham") _).answers_found
      (delivers_granting fixtures _) decodes_noFixtures ?_ ?_
    · intro e misses
      cases misses
    · intro found finds
      cases finds
      rfl

end Feed

end LeagueWager
