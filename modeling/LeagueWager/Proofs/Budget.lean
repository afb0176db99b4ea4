import LeagueWager.Feed.Traffic
import LeagueWager.Reads.Course

/-!
# How often a settlement fetches

The nine reads of a settlement come to the two resources of a feed in any order: three to the
tables, six to the fixtures. A fetch is followed by another of the same resource only if it failed,
and while all fail each read starts its own. So each resource is fetched once if its first fetch
succeeds, and more than once if it fails.

* `started_le`, `first_failed`: what holds at any time;
* `started_le_one_iff`: when one fetch is enough;
* `fetches_of_settlement`: both for the two resources, and for the settlement that runs.
-/

namespace LeagueWager

/-- The resource that a read looks at. -/
def ReadOf.wants : ReadOf → Feed.Resource
  | (_, .leagueEntry) => .tables
  | (_, .headToHead) => .fixtures
  | (_, .latestMatch) => .fixtures

namespace Feed

namespace Shelf

variable {ι α : Type} {mine : ι → Prop} {s : Shelf ι α}

theorem answered_length : s.answered.length = s.answers.length := List.length_map _

/-- Each of the reads starts one fetch at most. -/
theorem started_le (h : Sound mine s) {ids : List ι} (own : ∀ id, mine id → id ∈ ids) :
    s.started ≤ ids.length := by
  have hle := h.length_le
  unfold started
  cases hh : s.holder with
  | none =>
    have : s.answered.length ≤ ids.length :=
      h.nodup.length_le_of_subset fun id hid => own id (h.own id hid)
    rw [answered_length] at this
    simp only [Option.elim]
    omega
  | some id =>
    obtain ⟨_, hown, new⟩ := h.holds id hh
    have nodup : (id :: s.answered).Nodup := List.nodup_cons.mpr ⟨new, h.nodup⟩
    have : (id :: s.answered).length ≤ ids.length :=
      nodup.length_le_of_subset fun x hx => by
        rcases List.mem_cons.mp hx with rfl | hx
        · exact own x hown
        · exact own x (h.own x hx)
    rw [List.length_cons, answered_length] at this
    simp only [Option.elim]
    omega

/-- **A second fetch is started only if the first one failed.** -/
theorem first_failed (h : Sound mine s) (two : 1 < s.started) :
    ∃ e, s.brought.head? = some (.error e) := by
  obtain ⟨before, failed, hb⟩ := h.tries
  cases before with
  | cons x rest =>
    obtain ⟨e, rfl⟩ := failed x List.mem_cons_self
    exact ⟨e, by rw [hb]; rfl⟩
  | nil =>
    exfalso
    unfold started at two
    cases hh : s.holder with
    | none =>
      rw [hb, hh] at two
      cases hk : s.kept <;> simp [hk] at two
    | some id =>
      rw [hb, hh, (h.holds id hh).1] at two
      simp at two

/-- A fetch that fails leaves what is kept. -/
theorem kept_of_failed {τ : Type} {keeps : Bool} {fetch : τ → Except ReadError α × τ}
    {s' : Shelf ι α} {line line' : τ} (fails : ∀ line, Failed (fetch line).1)
    (hs : Step keeps mine fetch s line s' line') : s'.kept = s.kept := by
  cases hs with
  | use _ _ => rfl
  | ask _ _ => rfl
  | get _ =>
    obtain ⟨e, he⟩ := fails line
    show keptAfter s.kept (fetch line).1 = s.kept
    rw [he]
    rfl

/-- **One fetch is enough exactly if the first one succeeds**, for two reads or more. -/
theorem started_le_one_iff (h : Sound mine s) (free : s.holder = none)
    (reads : 2 ≤ s.answers.length) :
    s.started ≤ 1 ↔ ∃ a, s.brought.head? = some (.ok a) := by
  constructor
  · intro one
    unfold started at one
    rw [free] at one
    cases hk : s.kept with
    | none =>
      have := h.fetched hk
      simp only [Option.elim] at one
      omega
    | some a =>
      obtain ⟨before, _, hb⟩ := h.tries
      rw [hb, hk] at one
      cases before with
      | nil => exact ⟨a, by rw [hb, hk]; rfl⟩
      | cons x rest =>
        simp at one
  · rintro ⟨a, ha⟩
    refine Nat.le_of_not_lt fun two => ?_
    obtain ⟨e, he⟩ := first_failed h two
    rw [ha] at he
    cases he

end Shelf

namespace Traffic

variable {σ : Type} {feed : Feed} {server : Http.Server σ} {state : σ} {t : Traffic σ ReadOf}

/-- All nine reads were answered. -/
def Done (t : Traffic σ ReadOf) : Prop := t.Quiet ∧ ∀ read, read ∈ t.answered

/-- The reads for one resource. -/
def readsOf (resource : Resource) : List ReadOf :=
  ReadOf.all.filter fun read => read.wants = resource

theorem mem_readsOf {resource : Resource} {read : ReadOf} :
    read ∈ readsOf resource ↔ read.wants = resource := by
  unfold readsOf
  rw [List.mem_filter, decide_eq_true_eq]
  exact and_iff_right read.mem_all

/-! ## The settlement that runs -/

/-- The reads for one party, one after the other. -/
def afterParty (feed : Feed) (server : Http.Server σ) (seat : Seat) (t : Traffic σ ReadOf) :
    Traffic σ ReadOf :=
  (FetchKind.all.map fun kind => (seat, kind)).foldl (turn feed server ReadOf.wants) t

/-- The nine reads, one after the other. -/
def afterSettlement (feed : Feed) (server : Http.Server σ) (state : σ) : Traffic σ ReadOf :=
  ReadOf.all.foldl (turn feed server ReadOf.wants) (start state)

theorem state_afterParty (seat : Seat) (now : Instant) (assignment : Assignment) :
    (afterParty feed server seat t).state = (feed.reads server now assignment t.state).2 := by
  show (((t.turn feed server ReadOf.wants (seat, .leagueEntry)).turn feed server ReadOf.wants
    (seat, .headToHead)).turn feed server ReadOf.wants (seat, .latestMatch)).state = _
  rw [state_turn_fixtures rfl, state_turn_fixtures rfl, state_turn_tables rfl]
  unfold reads leagueEntry headToHead latestMatch
  dsimp only

theorem state_afterSettlement {now : Instant} {rules : Rules} {assignments : Trio Assignment} :
    (afterSettlement feed server state).state =
      (feed.settle server now rules assignments (.fresh state)).2 := by
  have parts : afterSettlement feed server state = afterParty feed server .third
      (afterParty feed server .second (afterParty feed server .first (start state))) := by
    unfold afterSettlement ReadOf.all
    rw [List.foldl_flatMap]
    simp only [Seat.all, List.foldl_cons, List.foldl_nil, afterParty]
  rw [parts, state_afterParty .third now assignments.third,
    state_afterParty .second now assignments.second, state_afterParty .first now assignments.first,
    show (start state : Traffic σ ReadOf).state = .fresh state from rfl]
  unfold settle
  dsimp only

theorem reachable_afterSettlement (feed : Feed) (server : Http.Server σ) (state : σ) :
    Reachable feed server ReadOf.wants state (afterSettlement feed server state) ∧
      (afterSettlement feed server state).Done := by
  have nodup : ReadOf.all.Nodup := by decide
  have started : Reachable feed server ReadOf.wants state (start state) := .start
  obtain ⟨reached, quiet, all⟩ := reachable_turns started ⟨rfl, rfl⟩ nodup
    fun _ _ => List.not_mem_nil
  exact ⟨reached, quiet, fun read => all read (.inr read.mem_all)⟩

theorem exists_done (feed : Feed) (server : Http.Server σ) (state : σ) :
    ∃ t, Reachable feed server ReadOf.wants state t ∧ t.Done :=
  ⟨_, reachable_afterSettlement feed server state⟩

/-! ## One fetch, or more -/

variable (h : Reachable feed server ReadOf.wants state t) (keeps : feed.keeps = true)

include h keeps

theorem Reachable.started_le : t.tables.started ≤ 3 ∧ t.fixtures.started ≤ 6 := by
  obtain ⟨tables, fixtures⟩ := h.sound keeps
  have three := Shelf.started_le tables fun _ own => mem_readsOf.mpr own
  have six := Shelf.started_le fixtures fun _ own => mem_readsOf.mpr own
  exact ⟨three, six⟩

theorem Reachable.mem_answered_iff (done : t.Done) (read : ReadOf) :
    (read ∈ t.tables.answered ↔ read.wants = .tables) ∧
      (read ∈ t.fixtures.answered ↔ read.wants = .fixtures) := by
  obtain ⟨tables, fixtures⟩ := h.sound keeps
  refine ⟨⟨tables.own read, fun own => ?_⟩, ⟨fixtures.own read, fun own => ?_⟩⟩
  · rcases List.mem_append.mp (done.2 read) with hr | hr
    · exact hr
    · rw [fixtures.own read hr] at own
      cases own
  · rcases List.mem_append.mp (done.2 read) with hr | hr
    · rw [tables.own read hr] at own
      cases own
    · exact hr

/-- Once all are answered, three were reads of the tables and six reads of the fixtures. -/
theorem Reachable.answers_length (done : t.Done) :
    t.tables.answers.length = 3 ∧ t.fixtures.answers.length = 6 := by
  obtain ⟨tables, fixtures⟩ := h.sound keeps
  have nodup (resource : Resource) : (readsOf resource).Nodup := by cases resource <;> decide
  have three : t.tables.answered.Perm (readsOf .tables) := by
    rw [List.perm_ext_iff_of_nodup tables.nodup (nodup _)]
    intro read
    rw [mem_readsOf, (h.mem_answered_iff keeps done read).1]
  have six : t.fixtures.answered.Perm (readsOf .fixtures) := by
    rw [List.perm_ext_iff_of_nodup fixtures.nodup (nodup _)]
    intro read
    rw [mem_readsOf, (h.mem_answered_iff keeps done read).2]
  rw [← Shelf.answered_length, ← Shelf.answered_length]
  exact ⟨three.length_eq, six.length_eq⟩

theorem Reachable.started_le_one_iff (done : t.Done) :
    (t.tables.started ≤ 1 ↔ ∃ rows, t.tables.brought.head? = some (.ok rows)) ∧
      (t.fixtures.started ≤ 1 ↔ ∃ fixtures, t.fixtures.brought.head? = some (.ok fixtures)) := by
  obtain ⟨tables, fixtures⟩ := h.sound keeps
  obtain ⟨three, six⟩ := h.answers_length keeps done
  exact ⟨Shelf.started_le_one_iff tables done.1.1 (by omega),
    Shelf.started_le_one_iff fixtures done.1.2 (by omega)⟩

/-- While nothing succeeds, each read starts a fetch. -/
theorem Reachable.started_of_none (done : t.Done) (none : t.state.rows = none)
    (none' : t.state.fixtures = .none) : t.tables.started = 3 ∧ t.fixtures.started = 6 := by
  obtain ⟨tables, fixtures⟩ := h.sound keeps
  obtain ⟨three, six⟩ := h.answers_length keeps done
  unfold Shelf.started
  rw [done.1.1, done.1.2, tables.fetched none, fixtures.fetched none', three, six]
  exact ⟨rfl, rfl⟩

omit h keeps

/-- **How often a settlement fetches**, whatever the server answers and in whatever order the nine
reads come to the resources. A resource is fetched again only if its first fetch failed, three times
or six at most; once all reads are answered, one fetch of each was enough exactly if the first of
each succeeded. The settlement that runs takes one of the orders. -/
theorem fetches_of_settlement {σ : Type} (feed : Feed) (server : Http.Server σ) (state : σ)
    (keeps : feed.keeps = true) :
    (∀ t, Reachable feed server ReadOf.wants state t →
      (1 < t.tables.started → ∃ e, t.tables.brought.head? = some (.error e)) ∧
      (1 < t.fixtures.started → ∃ e, t.fixtures.brought.head? = some (.error e)) ∧
      t.tables.started ≤ 3 ∧ t.fixtures.started ≤ 6 ∧
      (t.Done →
        (t.tables.started ≤ 1 ∧ t.fixtures.started ≤ 1 ↔
          (∃ rows, t.tables.brought.head? = some (.ok rows)) ∧
            ∃ fixtures, t.fixtures.brought.head? = some (.ok fixtures)))) ∧
    ∀ now rules assignments, ∃ t, Reachable feed server ReadOf.wants state t ∧ t.Done ∧
      t.state = (feed.settle server now rules assignments (.fresh state)).2 := by
  constructor
  · intro t h
    obtain ⟨tables, fixtures⟩ := h.sound keeps
    obtain ⟨three, six⟩ := h.started_le keeps
    refine ⟨Shelf.first_failed tables, Shelf.first_failed fixtures, three, six, fun done => ?_⟩
    obtain ⟨one, one'⟩ := h.started_le_one_iff keeps done
    rw [one, one']
  · intro now rules assignments
    obtain ⟨reached, done⟩ := reachable_afterSettlement feed server state
    exact ⟨_, reached, done, state_afterSettlement⟩

/-! ## A server that is down -/

/-- It answers every request with an error of its own. -/
def failing : Http.Server Unit where
  toReading := .plain
  answer _ _ := (.reply ⟨500, none, none, .empty, true⟩, ())

theorem get_failing {more : Nat} {line : Http.Line Unit} {request : Http.Request} :
    (failing.get more line request).1 = .page ⟨500, none, none, .empty, true⟩ := by
  cases more <;> rfl

theorem fetchText_failing (feed : Feed) (address : String) (line : Http.Line Unit) :
    ∃ e, (feed.fetchText failing address line).1 = .error e := by
  unfold fetchText
  cases feed.request address with
  | error fault => exact ⟨_, rfl⟩
  | ok request =>
    dsimp only
    rw [get_failing]
    exact ⟨_, rfl⟩

theorem fetchRows_failing (line : Http.Line Unit) :
    Shelf.Failed (feed.fetchRows failing line).1 := by
  obtain ⟨e, he⟩ := fetchText_failing feed (feed.address .tables) line
  exact ⟨e, by rw [fetchRows_fst, he]; rfl⟩

theorem fetchFixtures_failing (line : Http.Line Unit) :
    Shelf.Failed (feed.fetchFixtures failing line).1 := by
  obtain ⟨e, he⟩ := fetchText_failing feed (feed.address .fixtures) line
  exact ⟨e, by rw [fetchFixtures_fst, he]; rfl⟩

/-- Nothing is ever kept of it. -/
theorem Reachable.none_of_failing {t : Traffic Unit ReadOf}
    (h : Reachable feed failing ReadOf.wants () t) :
    t.tables.kept = none ∧ t.fixtures.kept = none := by
  induction h with
  | start => exact ⟨rfl, rfl⟩
  | tail _ step ih =>
    cases step with
    | tables hs => exact ⟨(Shelf.kept_of_failed fetchRows_failing hs).trans ih.1, ih.2⟩
    | fixtures hs => exact ⟨ih.1, (Shelf.kept_of_failed fetchFixtures_failing hs).trans ih.2⟩

/-- A feed that keeps what was fetched. -/
def openFeed : Feed := ⟨"https://api.football-data.org/v4", "PL", none, true⟩

theorem fetches_of_openFeed :
    openFeed.keeps = true ∧ ∃ t : Traffic Unit ReadOf,
      Reachable openFeed failing ReadOf.wants () t ∧ t.Done ∧
      (t.tables.started ≤ 1 ∧ t.fixtures.started ≤ 1 ↔
        (∃ rows, t.tables.brought.head? = some (.ok rows)) ∧
          ∃ fixtures, t.fixtures.brought.head? = some (.ok fixtures)) := by
  obtain ⟨t, reached, done⟩ := exists_done openFeed failing ()
  obtain ⟨_, _, _, _, iff⟩ := (fetches_of_settlement openFeed failing () rfl).1 t reached
  exact ⟨rfl, t, reached, done, iff done⟩

/-- One fetch of each is not enough for a settlement with a server that is down. -/
theorem not_one_fetch : ¬ ∀ t : Traffic Unit ReadOf,
    Reachable openFeed failing ReadOf.wants () t →
      t.tables.started ≤ 1 ∧ t.fixtures.started ≤ 1 := by
  intro h
  obtain ⟨t, reached, done⟩ := exists_done openFeed failing ()
  obtain ⟨none, none'⟩ := reached.none_of_failing
  obtain ⟨three, _⟩ := reached.started_of_none rfl done none none'
  have one := (h t reached).1
  omega

end Traffic

end Feed

end LeagueWager
