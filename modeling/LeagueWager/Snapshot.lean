import LeagueWager.Provider

/-!
# Snapshots

A snapshot is a whole league table and a list of fixtures. What is read of a team is selected from
it; the latest fixture depends on the moment from which it is looked at.

* `latest?_eq_none_iff`: there is no latest fixture exactly if no fixture of the team has kicked
  off by then;
* `mem_of_latestMatch`: the latest fixture is a fixture of the team that has;
* `headToHead_comm`: the order of the two names does not matter.
-/

namespace LeagueWager

/-- A league table and its fixtures. -/
structure Snapshot where
  table : List Standing
  fixtures : List Fixture
  deriving DecidableEq, Repr

namespace Snapshot

/-- The first row of the table whose team answers to the name. -/
def leagueEntry (table : List Standing) (team : String) : Except ReadError Standing :=
  match table.find? fun row => row.team.answersTo team with
  | some row => .ok row
  | none => .error (.notFound .leagueEntry team)

/-- Every fixture between the two teams. -/
def headToHead (fixtures : List Fixture) (a b : String) : List Fixture :=
  fixtures.filter fun fixture => fixture.isBetween a b

/-- The later of two fixtures, the second if they kick off together. -/
def later (best : Option Fixture) (fixture : Fixture) : Option Fixture :=
  match best with
  | none => some fixture
  | some best => if best.kickOff ≤ fixture.kickOff then some fixture else some best

/-- The fixture involves the team and has kicked off by `now`. -/
def hasStarted (team : String) (now : Instant) (fixture : Fixture) : Bool :=
  fixture.involves team && decide (fixture.kickOff ≤ now)

/-- Of the team's fixtures that have kicked off by `now`, the last of the latest. -/
def latest? (fixtures : List Fixture) (team : String) (now : Instant) : Option Fixture :=
  (fixtures.filter (hasStarted team now)).foldl later none

/-- The team's latest fixture. -/
def latestMatch (fixtures : List Fixture) (team : String) (now : Instant) :
    Except ReadError Fixture :=
  match latest? fixtures team now with
  | some fixture => .ok fixture
  | none => .error (.notFound .latestMatch team)

/-- The snapshot as a provider, looked at from `now`. -/
def provider (snapshot : Snapshot) (now : Instant) : Provider where
  leagueEntry team := .ofExcept (leagueEntry snapshot.table team)
  headToHead a b := .value (headToHead snapshot.fixtures a b)
  latestMatch team := .ofExcept (latestMatch snapshot.fixtures team now)

theorem headToHead_comm (fixtures : List Fixture) (a b : String) :
    headToHead fixtures a b = headToHead fixtures b a := by
  simp only [headToHead, Fixture.isBetween_comm]

theorem later_isSome (best : Option Fixture) (fixture : Fixture) :
    (later best fixture).isSome = true := by
  unfold later
  split
  · rfl
  · split <;> rfl

theorem foldl_later_isSome (fixtures : List Fixture) (best : Option Fixture)
    (h : best.isSome = true) : (fixtures.foldl later best).isSome = true := by
  induction fixtures generalizing best with
  | nil => exact h
  | cons fixture rest ih => exact ih _ (later_isSome best fixture)

theorem hasStarted_iff {team : String} {now : Instant} {f : Fixture} :
    hasStarted team now f = true ↔ f.involves team = true ∧ f.kickOff ≤ now := by
  unfold hasStarted
  rw [Bool.and_eq_true, decide_eq_true_eq]

theorem latest?_eq_none_iff {fixtures : List Fixture} {team : String} {now : Instant} :
    latest? fixtures team now = none ↔
      ∀ f ∈ fixtures, ¬ (f.involves team = true ∧ f.kickOff ≤ now) := by
  simp only [← hasStarted_iff]
  unfold latest?
  rw [← List.filter_eq_nil_iff]
  cases fixtures.filter (hasStarted team now) with
  | nil => exact iff_of_true rfl rfl
  | cons fixture rest =>
    have hsome := foldl_later_isSome rest (later none fixture) (later_isSome none fixture)
    refine iff_of_false ?_ (List.cons_ne_nil fixture rest)
    intro h
    rw [List.foldl_cons] at h
    rw [h] at hsome
    cases hsome

theorem latestMatch_eq_ok_iff_latest? {fixtures : List Fixture} {team : String} {now : Instant}
    {f : Fixture} : latestMatch fixtures team now = .ok f ↔ latest? fixtures team now = some f := by
  unfold latestMatch
  cases latest? fixtures team now with
  | none => simp
  | some g => simp

/-- The latest fixture is missing exactly if no fixture of the team has kicked off. -/
theorem latestMatch_eq_error_iff {fixtures : List Fixture} {team : String} {now : Instant}
    {e : ReadError} :
    latestMatch fixtures team now = .error e ↔ e = .notFound .latestMatch team ∧
      ∀ f ∈ fixtures, ¬ (f.involves team = true ∧ f.kickOff ≤ now) := by
  rw [← latest?_eq_none_iff]
  unfold latestMatch
  cases latest? fixtures team now with
  | none => simp [eq_comm]
  | some f => simp

theorem later_eq_some {best : Option Fixture} {fixture f : Fixture}
    (h : later best fixture = some f) : f = fixture ∨ best = some f := by
  unfold later at h
  split at h
  · exact .inl (Option.some.inj h).symm
  · split at h
    · exact .inl (Option.some.inj h).symm
    · exact .inr h

theorem mem_of_foldl_later {fixtures : List Fixture} {best : Option Fixture} {f : Fixture}
    (h : fixtures.foldl later best = some f) : f ∈ fixtures ∨ best = some f := by
  induction fixtures generalizing best with
  | nil => exact .inr h
  | cons fixture rest ih =>
    rcases ih h with mem | first
    · exact .inl (List.mem_cons_of_mem fixture mem)
    · rcases later_eq_some first with rfl | best
      · exact .inl List.mem_cons_self
      · exact .inr best

/-- The latest fixture is one of the fixtures. -/
theorem mem_of_latestMatch {fixtures : List Fixture} {team : String} {now : Instant} {f : Fixture}
    (h : latestMatch fixtures team now = .ok f) :
    f ∈ fixtures ∧ f.involves team = true ∧ f.kickOff ≤ now := by
  rcases mem_of_foldl_later (latestMatch_eq_ok_iff_latest?.mp h) with mem | none
  · obtain ⟨mem, started⟩ := List.mem_filter.mp mem
    exact ⟨mem, hasStarted_iff.mp started⟩
  · cases none

end Snapshot

end LeagueWager
