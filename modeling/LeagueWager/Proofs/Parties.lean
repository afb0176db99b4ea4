import LeagueWager.Reads.Course

/-!
# What a party comes to

A party comes to its projection, or to one of the failures that it can report. Both are said here
in terms of its three reads alone, and are found to be what the gathering of the reads comes to.

* `party_eq_all_iff`: a party has a projection exactly if its reads return values from which it can
  be built;
* `mem_failures_party_iff`: what it can report is a failure of one of its reads, with the name of
  that read, or that the projection cannot be built;
* `builds_or_reports`: it comes to one of both, and `not_reports_of_builds`: never to both.
-/

namespace LeagueWager

/-- How a read of `kind` for `team` that returns no value is reported. -/
inductive Read.FailsWith {α : Type} (kind : FetchKind) (team : String) :
    Read α → Failure → Prop where
  /-- The source of the failure is passed on as it is. -/
  | failed (source : ReadError) : FailsWith kind team (.failed source) (.fetch kind team source)
  | crashed (message : String) : FailsWith kind team (.crashed message) (.crashed message)

namespace Reads

section

variable (rules : Rules) (assignment : Assignment) (reads : Reads)

/-- All three reads return values. -/
def Return (row : Standing) (fixtures : List Fixture) (latest : Fixture) : Prop :=
  reads.leagueEntry = .value row ∧ reads.headToHead = .value fixtures ∧
    reads.latestMatch = .value latest

/-- The reads return values from which the projection is built. -/
def Builds (projection : Projection) : Prop :=
  ∃ row fixtures latest, reads.Return row fixtures latest ∧
    Projection.build rules assignment row fixtures latest = .ok projection

/-- What a party can report. -/
inductive Reports : Failure → Prop where
  | leagueEntry {f : Failure}
      (fails : reads.leagueEntry.FailsWith .leagueEntry assignment.team f) : Reports f
  | headToHead {f : Failure}
      (fails : reads.headToHead.FailsWith .headToHead (pairName assignment.opponents) f) : Reports f
  | latestMatch {f : Failure}
      (fails : reads.latestMatch.FailsWith .latestMatch assignment.team f) : Reports f
  /-- The values are there, but a figure of the projection does not fit. -/
  | build {row : Standing} {fixtures : List Fixture} {latest : Fixture} {cause : Overflow}
      (values : reads.Return row fixtures latest)
      (overflows : Projection.build rules assignment row fixtures latest = .error cause) :
    Reports (.crashed cause.message)

end

variable {rules : Rules} {assignment : Assignment} {reads : Reads}

/-! ## One read -/

theorem mem_failures_gathered_iff {α : Type} {kind : FetchKind} {team : String} {read : Read α}
    {f : Failure} : f ∈ (gathered kind team read).failures ↔ read.FailsWith kind team f := by
  constructor
  · intro h
    cases read with
    | value a => cases h
    | failed e =>
      obtain rfl := List.mem_singleton.mp h
      exact .failed e
    | crashed message =>
      obtain rfl := List.mem_singleton.mp h
      exact .crashed message
  · intro h
    cases h with
    | failed e => exact List.mem_singleton.mpr rfl
    | crashed message => exact List.mem_singleton.mpr rfl

theorem gathered_eq_all_iff {α : Type} {kind : FetchKind} {team : String} {read : Read α} {a : α} :
    gathered kind team read = .all a ↔ read = .value a := by
  cases read <;> simp [gathered]

theorem head?_failures_gathered_iff {α : Type} {kind : FetchKind} {team : String} {read : Read α}
    {f : Failure} :
    (gathered kind team read).failures.head? = some f ↔ read.FailsWith kind team f := by
  rw [← mem_failures_gathered_iff]
  cases read <;> simp [gathered, Gathered.failures, eq_comm]

/-! ## Three reads -/

theorem gather_eq_all_iff {row : Standing} {fixtures : List Fixture} {latest : Fixture} :
    reads.gather assignment = .all (row, fixtures, latest) ↔ reads.Return row fixtures latest := by
  unfold gather Return
  rw [Gathered.both_eq_all_iff, Gathered.both_eq_all_iff]
  simp only [gathered_eq_all_iff]

theorem mem_failures_gather_iff {f : Failure} :
    f ∈ (reads.gather assignment).failures ↔
      reads.leagueEntry.FailsWith .leagueEntry assignment.team f ∨
      reads.headToHead.FailsWith .headToHead (pairName assignment.opponents) f ∨
      reads.latestMatch.FailsWith .latestMatch assignment.team f := by
  rw [failures_gather]
  simp only [List.mem_append, mem_failures_gathered_iff, or_assoc]

/-- If not all values are there, one of the reads failed. -/
theorem exists_failure?_of_failed {first : Failure} {others : List Failure}
    (h : reads.gather assignment = .failed first others) :
    ∃ kind f, reads.failure? assignment kind = some f := by
  have hf : first ∈ (reads.gather assignment).failures := by
    rw [h]
    exact List.mem_cons_self
  rcases mem_failures_gather_iff.mp hf with hf | hf | hf
  · exact ⟨.leagueEntry, first, head?_failures_gathered_iff.mpr hf⟩
  · exact ⟨.headToHead, first, head?_failures_gathered_iff.mpr hf⟩
  · exact ⟨.latestMatch, first, head?_failures_gathered_iff.mpr hf⟩

/-! ## The party -/

theorem party_of_return {row : Standing} {fixtures : List Fixture} {latest : Fixture}
    (values : reads.Return row fixtures latest) :
    reads.party rules assignment =
      match Projection.build rules assignment row fixtures latest with
      | .ok projection => .all projection
      | .error cause => .failed (.crashed cause.message) [] := by
  unfold party project Gathered.run
  rw [gather_eq_all_iff.mpr values]
  dsimp only
  cases Projection.build rules assignment row fixtures latest <;> rfl

theorem party_of_failed {first : Failure} {others : List Failure}
    (h : reads.gather assignment = .failed first others) :
    reads.party rules assignment = .failed first others := by
  unfold party project Gathered.run
  rw [h]

/-- **A party has a projection exactly if its reads return values from which it is built.** -/
theorem party_eq_all_iff {projection : Projection} :
    reads.party rules assignment = .all projection ↔ reads.Builds rules assignment projection := by
  constructor
  · intro h
    cases hg : reads.gather assignment with
    | all values =>
      have hv := gather_eq_all_iff.mp hg
      refine ⟨_, _, _, hv, ?_⟩
      rw [party_of_return hv] at h
      split at h
      · rename_i hb
        cases h
        exact hb
      · cases h
    | failed first others =>
      rw [party_of_failed hg] at h
      cases h
  · rintro ⟨row, fixtures, latest, values, hb⟩
    rw [party_of_return values, hb]

/-- **What a party can report is what its reads or its projection fail with.** -/
theorem mem_failures_party_iff {f : Failure} :
    f ∈ (reads.party rules assignment).failures ↔ reads.Reports rules assignment f := by
  constructor
  · intro h
    cases hg : reads.gather assignment with
    | all values =>
      have hv := gather_eq_all_iff.mp hg
      rw [party_of_return hv] at h
      split at h
      · cases h
      · rename_i cause hb
        obtain rfl := List.mem_singleton.mp h
        exact .build hv hb
    | failed first others =>
      rw [party_of_failed hg] at h
      have hf : f ∈ (reads.gather assignment).failures := by
        rw [hg]
        exact h
      rcases mem_failures_gather_iff.mp hf with h | h | h
      · exact .leagueEntry h
      · exact .headToHead h
      · exact .latestMatch h
  · intro h
    cases h with
    | leagueEntry fails =>
      exact failures_party_of_gather (mem_failures_gather_iff.mpr (.inl fails))
    | headToHead fails =>
      exact failures_party_of_gather (mem_failures_gather_iff.mpr (.inr (.inl fails)))
    | latestMatch fails =>
      exact failures_party_of_gather (mem_failures_gather_iff.mpr (.inr (.inr fails)))
    | build values overflows =>
      rw [party_of_return values, overflows]
      exact List.mem_singleton.mpr rfl

/-- A party comes to its projection, or has something to report. -/
theorem builds_or_reports (rules : Rules) (assignment : Assignment) (reads : Reads) :
    (∃ projection, reads.Builds rules assignment projection) ∨
      ∃ f, reads.Reports rules assignment f := by
  cases hp : reads.party rules assignment with
  | all projection => exact .inl ⟨projection, party_eq_all_iff.mp hp⟩
  | failed first others =>
    refine .inr ⟨first, mem_failures_party_iff.mp ?_⟩
    rw [hp]
    exact List.mem_cons_self

/-- A party that comes to its projection has nothing to report. -/
theorem not_reports_of_builds {projection : Projection} {f : Failure}
    (hb : reads.Builds rules assignment projection) : ¬ reads.Reports rules assignment f := by
  intro hr
  have h := mem_failures_party_iff.mpr hr
  rw [party_eq_all_iff.mpr hb] at h
  cases h

end Reads

end LeagueWager
