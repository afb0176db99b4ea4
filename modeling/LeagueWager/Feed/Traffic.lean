import LeagueWager.Feed.Kept

/-!
# Reads of the feed at the same time

Any number of reads may be under way. Each resource has a lock of its own, which the reads of it get
in any order. The read that has the lock looks at what is kept; if it has to fetch, it keeps the
lock until the fetch has ended, and the others wait. A fetch of the table and one of the fixtures
can go on at the same time.

* `sound_step`, `Reachable.sound`: what holds of a resource in every order, if what was fetched is
  used again;
* `reachable_turns`: reads one after the other are one of the orders.
-/

namespace LeagueWager.Feed

/-- One resource: what is kept of it, and its reads. -/
structure Shelf (ι α : Type) where
  kept : Option α
  /-- The read whose fetch is under way. -/
  holder : Option ι
  /-- What the fetches have brought, in order. -/
  brought : List (Except ReadError α)
  /-- The reads that were answered, in order, with their answers. -/
  answers : List (ι × Except ReadError α)

namespace Shelf

variable {ι α τ : Type}

/-- Nothing is kept, and nothing was asked. -/
def empty : Shelf ι α := ⟨none, none, [], []⟩

/-- How many fetches were started. -/
def started (s : Shelf ι α) : Nat := s.brought.length + s.holder.elim 0 fun _ => 1

/-- The reads that were answered. -/
def answered (s : Shelf ι α) : List ι := s.answers.map Prod.fst

/-- The read gets the lock. -/
structure Turn (mine : ι → Prop) (id : ι) (s : Shelf ι α) : Prop where
  free : s.holder = none
  own : mine id
  new : id ∉ s.answered

/-- The read is answered by what is kept. -/
def use (s : Shelf ι α) (id : ι) (a : α) : Shelf ι α :=
  { s with answers := s.answers ++ [(id, .ok a)] }

/-- The read starts a fetch. -/
def hold (s : Shelf ι α) (id : ι) : Shelf ι α := { s with holder := some id }

/-- The read's fetch has ended. -/
def store (s : Shelf ι α) (id : ι) (outcome : Except ReadError α) : Shelf ι α where
  kept := keptAfter s.kept outcome
  holder := none
  brought := s.brought ++ [outcome]
  answers := s.answers ++ [(id, outcome)]

/-- One step of the reads that are `mine`. -/
inductive Step (keeps : Bool) (mine : ι → Prop) (fetch : τ → Except ReadError α × τ) :
    Shelf ι α → τ → Shelf ι α → τ → Prop where
  /-- A read gets the lock and finds what it needs. -/
  | use {s : Shelf ι α} {line : τ} {id : ι} {a : α} (turn : Turn mine id s)
      (found : usable keeps s.kept = some a) : Step keeps mine fetch s line (s.use id a) line
  /-- A read gets the lock and starts a fetch. -/
  | ask {s : Shelf ι α} {line : τ} {id : ι} (turn : Turn mine id s)
      (missing : usable keeps s.kept = none) : Step keeps mine fetch s line (s.hold id) line
  /-- The fetch ends. All its requests are sent here at once: whatever a server answers to requests
  for the two resources in turns, one with a state for each resource answers here. -/
  | get {s : Shelf ι α} {line : τ} {id : ι} (holds : s.holder = some id) :
    Step keeps mine fetch s line (s.store id (fetch line).1) (fetch line).2

/-! ## What holds in every order -/

/-- A fetch failed. -/
def Failed (brought : Except ReadError α) : Prop := ∃ e, brought = .error e

/-- What was fetched is used again: no fetch follows one that succeeds. -/
structure Sound (mine : ι → Prop) (s : Shelf ι α) : Prop where
  /-- No read is answered twice, and only reads of this resource are. -/
  nodup : s.answered.Nodup
  own : ∀ id ∈ s.answered, mine id
  /-- A fetch is under way only while nothing is kept. -/
  holds : ∀ id, s.holder = some id → s.kept = none ∧ mine id ∧ id ∉ s.answered
  /-- All fetches failed, but for the last one if it brought what is kept. -/
  tries : ∃ before, (∀ x ∈ before, Failed x) ∧ s.brought = before ++ s.kept.toList.map .ok
  /-- Until something is kept, every answer is that of a fetch. -/
  fetched : s.kept = none → s.brought.length = s.answers.length
  length_le : s.brought.length ≤ s.answers.length

theorem sound_empty {mine : ι → Prop} : Sound mine (empty : Shelf ι α) where
  nodup := List.nodup_nil
  own := by simp [answered, empty]
  holds := by simp [empty]
  tries := ⟨[], by simp, rfl⟩
  fetched := fun _ => rfl
  length_le := Nat.le_refl _

theorem answered_append {s s' : Shelf ι α} {id : ι} {x : Except ReadError α}
    (h : s'.answers = s.answers ++ [(id, x)]) : s'.answered = s.answered ++ [id] := by
  simp [answered, h]

theorem nodup_answered_append {answered : List ι} {id : ι} (h : answered.Nodup)
    (new : id ∉ answered) : (answered ++ [id]).Nodup := by
  rw [List.nodup_append]
  refine ⟨h, by simp, fun x hx y hy => ?_⟩
  rw [List.mem_singleton.mp hy]
  rintro rfl
  exact new hx

theorem own_append {mine : ι → Prop} {answered : List ι} {id : ι}
    (h : ∀ other ∈ answered, mine other) (own : mine id) :
    ∀ other ∈ answered ++ [id], mine other := by
  intro other hx
  rcases List.mem_append.mp hx with hx | hx
  · exact h other hx
  · rw [List.mem_singleton.mp hx]
    exact own

/-- A fetch while nothing is kept is one more that failed, or the one that succeeds. -/
theorem tries_append {kept : Option α} {brought : List (Except ReadError α)}
    {outcome : Except ReadError α} (none : kept = none)
    (h : ∃ before, (∀ x ∈ before, Failed x) ∧ brought = before ++ kept.toList.map .ok) :
    ∃ before, (∀ x ∈ before, Failed x) ∧
      brought ++ [outcome] = before ++ (keptAfter kept outcome).toList.map .ok := by
  obtain ⟨before, failed, rfl⟩ := h
  subst none
  cases outcome with
  | ok a => exact ⟨before, failed, by simp [keptAfter]⟩
  | error e =>
    refine ⟨before ++ [.error e], ?_, by simp [keptAfter]⟩
    intro x hx
    rcases List.mem_append.mp hx with hx | hx
    · exact failed x hx
    · exact ⟨e, List.mem_singleton.mp hx⟩

/-- **Preserved by every step.** -/
theorem sound_step {mine : ι → Prop} {fetch : τ → Except ReadError α × τ} {s s' : Shelf ι α}
    {line line' : τ} (h : Sound mine s) (hs : Step true mine fetch s line s' line') :
    Sound mine s' := by
  cases hs with
  | @use id a turn found =>
    have happ : (s.use id a).answered = s.answered ++ [id] := answered_append rfl
    have hk : s.kept = some a := found
    refine ⟨?_, ?_, ?_, h.tries, ?_, ?_⟩
    · rw [happ]
      exact nodup_answered_append h.nodup turn.new
    · rw [happ]
      exact own_append h.own turn.own
    · intro other hx
      have free := turn.free
      rw [show s.holder = some other from hx] at free
      cases free
    · intro none
      rw [show s.kept = Option.none from none] at hk
      cases hk
    · have := h.length_le
      simp only [use, List.length_append, List.length_singleton]
      omega
  | @ask id turn missing =>
    refine ⟨h.nodup, h.own, ?_, h.tries, h.fetched, h.length_le⟩
    intro other hx
    cases hx
    exact ⟨missing, turn.own, turn.new⟩
  | @get id holds =>
    obtain ⟨hk, own, new⟩ := h.holds id holds
    have happ : (s.store id (fetch line).1).answered = s.answered ++ [id] := answered_append rfl
    have hlen := h.fetched hk
    refine ⟨?_, ?_, ?_, tries_append hk h.tries, ?_, ?_⟩
    · rw [happ]
      exact nodup_answered_append h.nodup new
    · rw [happ]
      exact own_append h.own own
    · intro other hx
      cases hx
    · intro _
      simp only [store, List.length_append, List.length_singleton]
      omega
    · simp only [store, List.length_append, List.length_singleton]
      omega

/-! ## One read after the other -/

/-- A read gets the lock and goes on until it is answered. -/
def turn (keeps : Bool) (fetch : τ → Except ReadError α × τ) (s : Shelf ι α) (line : τ) (id : ι) :
    Shelf ι α × τ :=
  match usable keeps s.kept with
  | some a => (s.use id a, line)
  | none => (s.store id (fetch line).1, (fetch line).2)

theorem answered_turn {keeps : Bool} {fetch : τ → Except ReadError α × τ} {s : Shelf ι α} {line : τ}
    {id : ι} : (turn keeps fetch s line id).1.answered = s.answered ++ [id] := by
  unfold turn
  split <;> exact answered_append rfl

/-- It is one step, or two. -/
theorem step_turn {keeps : Bool} {mine : ι → Prop} {fetch : τ → Except ReadError α × τ}
    {s : Shelf ι α} {line : τ} {id : ι} (ready : Turn mine id s) :
    Step keeps mine fetch s line (turn keeps fetch s line id).1 (turn keeps fetch s line id).2 ∨
      ∃ s', Step keeps mine fetch s line s' line ∧
        Step keeps mine fetch s' line (turn keeps fetch s line id).1
          (turn keeps fetch s line id).2 := by
  unfold turn
  cases hu : usable keeps s.kept with
  | some a => exact .inl (.use ready hu)
  | none => exact .inr ⟨s.hold id, .ask ready hu, .get rfl⟩

theorem holder_turn {keeps : Bool} {fetch : τ → Except ReadError α × τ} {s : Shelf ι α} {line : τ}
    {id : ι} (free : s.holder = none) : (turn keeps fetch s line id).1.holder = none := by
  unfold turn
  split
  · exact free
  · rfl

end Shelf

/-- The resources of a feed, and the line to its server. -/
structure Traffic (σ ι : Type) where
  tables : Shelf ι (List Standing)
  fixtures : Shelf ι (List Fixture)
  line : Http.Line σ

namespace Traffic

variable {σ ι : Type}

/-- Nothing is kept, and nothing was sent. -/
def start (state : σ) : Traffic σ ι := ⟨.empty, .empty, ⟨state, []⟩⟩

/-- What is kept of the feed, and the line to its server. -/
def state (t : Traffic σ ι) : State σ := ⟨t.tables.kept, t.fixtures.kept, t.line⟩

/-- The reads that were answered. -/
def answered (t : Traffic σ ι) : List ι := t.tables.answered ++ t.fixtures.answered

/-- No fetch is under way. -/
def Quiet (t : Traffic σ ι) : Prop := t.tables.holder = none ∧ t.fixtures.holder = none

section

variable (feed : Feed) (server : Http.Server σ) (wants : ι → Resource)

/-- One step of the reads for one of the resources, each of which `wants` one. -/
inductive Step : Traffic σ ι → Traffic σ ι → Prop where
  | tables {t : Traffic σ ι} {s : Shelf ι (List Standing)} {line : Http.Line σ}
      (h : Shelf.Step feed.keeps (fun id => wants id = .tables) (feed.fetchRows server)
        t.tables t.line s line) :
    Step t ⟨s, t.fixtures, line⟩
  | fixtures {t : Traffic σ ι} {s : Shelf ι (List Fixture)} {line : Http.Line σ}
      (h : Shelf.Step feed.keeps (fun id => wants id = .fixtures) (feed.fetchFixtures server)
        t.fixtures t.line s line) :
    Step t ⟨t.tables, s, line⟩

/-- What the reads can come to. -/
inductive Reachable (state : σ) : Traffic σ ι → Prop where
  | start : Reachable state (start state)
  | tail {t t' : Traffic σ ι} (before : Reachable state t) (step : Step feed server wants t t') :
    Reachable state t'

/-- A read gets its lock and goes on until it is answered. -/
def turn (t : Traffic σ ι) (id : ι) : Traffic σ ι :=
  match wants id with
  | .tables =>
    let (s, line) := t.tables.turn feed.keeps (feed.fetchRows server) t.line id
    ⟨s, t.fixtures, line⟩
  | .fixtures =>
    let (s, line) := t.fixtures.turn feed.keeps (feed.fetchFixtures server) t.line id
    ⟨t.tables, s, line⟩

end

variable {feed : Feed} {server : Http.Server σ} {wants : ι → Resource} {state : σ}
variable {t t' : Traffic σ ι}

/-- **What was fetched is used again, in every order.** -/
theorem Reachable.sound (keeps : feed.keeps = true)
    (h : Reachable feed server wants state t) :
    t.tables.Sound (fun id => wants id = .tables) ∧
      t.fixtures.Sound (fun id => wants id = .fixtures) := by
  induction h with
  | start => exact ⟨Shelf.sound_empty, Shelf.sound_empty⟩
  | tail _ step ih =>
    cases step with
    | tables hs =>
      rw [keeps] at hs
      exact ⟨Shelf.sound_step ih.1 hs, ih.2⟩
    | fixtures hs =>
      rw [keeps] at hs
      exact ⟨ih.1, Shelf.sound_step ih.2 hs⟩

/-! ## One read after the other -/

theorem turn_tables {id : ι} (h : wants id = .tables) :
    t.turn feed server wants id =
      ⟨(t.tables.turn feed.keeps (feed.fetchRows server) t.line id).1, t.fixtures,
        (t.tables.turn feed.keeps (feed.fetchRows server) t.line id).2⟩ := by
  unfold turn
  rw [h]

theorem turn_fixtures {id : ι} (h : wants id = .fixtures) :
    t.turn feed server wants id =
      ⟨t.tables, (t.fixtures.turn feed.keeps (feed.fetchFixtures server) t.line id).1,
        (t.fixtures.turn feed.keeps (feed.fetchFixtures server) t.line id).2⟩ := by
  unfold turn
  rw [h]

/-- It leaves what a read on its own leaves. -/
theorem state_turn_tables {id : ι} (h : wants id = .tables) :
    (t.turn feed server wants id).state = (feed.readRows server t.state).2 := by
  rw [turn_tables h]
  unfold Shelf.turn readRows reuse
  dsimp only [state]
  cases usable feed.keeps t.tables.kept <;> rfl

theorem state_turn_fixtures {id : ι} (h : wants id = .fixtures) :
    (t.turn feed server wants id).state = (feed.readFixtures server t.state).2 := by
  rw [turn_fixtures h]
  unfold Shelf.turn readFixtures reuse
  dsimp only [state]
  cases usable feed.keeps t.fixtures.kept <;> rfl

theorem answered_turn {id other : ι} :
    other ∈ (t.turn feed server wants id).answered ↔ other ∈ t.answered ∨ other = id := by
  cases h : wants id with
  | tables =>
    rw [turn_tables h]
    unfold answered
    rw [Shelf.answered_turn]
    simp only [List.mem_append, List.mem_singleton]
    grind
  | fixtures =>
    rw [turn_fixtures h]
    unfold answered
    rw [Shelf.answered_turn]
    simp only [List.mem_append, List.mem_singleton, or_assoc]

theorem quiet_turn {id : ι} (free : t.Quiet) : (t.turn feed server wants id).Quiet := by
  cases h : wants id with
  | tables =>
    rw [turn_tables h]
    exact ⟨Shelf.holder_turn free.1, free.2⟩
  | fixtures =>
    rw [turn_fixtures h]
    exact ⟨free.1, Shelf.holder_turn free.2⟩

theorem Reachable.turn {id : ι} (h : Reachable feed server wants state t) (free : t.Quiet)
    (new : id ∉ t.answered) : Reachable feed server wants state (t.turn feed server wants id) := by
  obtain ⟨newRow, newFixture⟩ := not_or.mp (mt List.mem_append.mpr new)
  cases hw : wants id with
  | tables =>
    rw [turn_tables hw]
    have ready : Shelf.Turn (fun id => wants id = .tables) id t.tables := ⟨free.1, hw, newRow⟩
    rcases Shelf.step_turn ready with one | ⟨s, asked, got⟩
    · exact .tail h (.tables one)
    · have before := Reachable.tail h (.tables asked)
      exact .tail before (.tables got)
  | fixtures =>
    rw [turn_fixtures hw]
    have ready : Shelf.Turn (fun id => wants id = .fixtures) id t.fixtures :=
      ⟨free.2, hw, newFixture⟩
    rcases Shelf.step_turn ready with one | ⟨s, asked, got⟩
    · exact .tail h (.fixtures one)
    · have before := Reachable.tail h (.fixtures asked)
      exact .tail before (.fixtures got)

/-- **Reads one after the other are one of the orders**, and all of them are answered. -/
theorem reachable_turns {ids : List ι} (h : Reachable feed server wants state t) (free : t.Quiet)
    (nodup : ids.Nodup) (new : ∀ id ∈ ids, id ∉ t.answered) :
    Reachable feed server wants state (ids.foldl (Traffic.turn feed server wants) t) ∧
      (ids.foldl (Traffic.turn feed server wants) t).Quiet ∧
      ∀ id, id ∈ t.answered ∨ id ∈ ids →
        id ∈ (ids.foldl (Traffic.turn feed server wants) t).answered := by
  induction ids generalizing t with
  | nil => exact ⟨h, free, fun id hid => hid.resolve_right List.not_mem_nil⟩
  | cons id rest ih =>
    obtain ⟨other, nodup⟩ := List.nodup_cons.mp nodup
    have next := h.turn free (new id List.mem_cons_self)
    have fresh : ∀ x ∈ rest, x ∉ (t.turn feed server wants id).answered := by
      intro x hx hmem
      rcases answered_turn.mp hmem with hmem | rfl
      · exact new x (List.mem_cons_of_mem _ hx) hmem
      · exact other hx
    obtain ⟨reached, quiet, all⟩ := ih next (quiet_turn free) nodup fresh
    refine ⟨reached, quiet, fun x hx => all x ?_⟩
    rcases hx with hx | hx
    · exact .inl (answered_turn.mpr (.inl hx))
    · rcases List.mem_cons.mp hx with rfl | hx
      · exact .inl (answered_turn.mpr (.inr rfl))
      · exact .inr hx

end Traffic

end LeagueWager.Feed
