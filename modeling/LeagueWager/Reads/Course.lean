import LeagueWager.Reads

/-!
# The course of a settlement

The settlement starts a task for each party, in order; a party's task starts one task for each of
its reads, in order. All tasks go on at the same time, in any order. A party ends with the first
failure that it sees among its reads, or with its projection once all are back; the settlement ends
with the first failure of a party that it sees, or with all three projections. Whatever else is
under way then goes on to its end, and nobody looks at it.

* `Reachable.failure_mem`: a settlement ends only with a failure that was gathered;
* `Reachable.parties_eq`: it ends with projections only if they are those that were gathered;
* `Reachable.asked_nodup`: no read is asked for twice.
-/

namespace LeagueWager

/-- A read, by the party that it is for. -/
abbrev ReadOf := Seat × FetchKind

/-- The nine reads. -/
def ReadOf.all : List ReadOf :=
  Seat.all.flatMap fun seat => FetchKind.all.map fun kind => (seat, kind)

theorem ReadOf.mem_all (read : ReadOf) : read ∈ all :=
  List.mem_flatMap.mpr ⟨read.1, Seat.mem_all _, List.mem_map.mpr ⟨read.2, FetchKind.mem_all _, rfl⟩⟩

/-- How far a settlement has come. -/
structure Course where
  /-- The parties whose tasks are still to be started, the next first. -/
  toStart : List Seat
  /-- The reads whose tasks a party's task has still to start, the next first. -/
  toRead : Seat → List FetchKind
  /-- The reads that were asked for, the last first. -/
  asked : List ReadOf
  /-- The reads that are back. -/
  back : List ReadOf
  /-- How a party has ended. -/
  closed : Seat → Option (Except Failure Projection)
  /-- How the settlement has ended. -/
  ended : Option (Except Failure (Trio Projection))

/-- The failure of one of a party's reads, if it fails. -/
def Reads.failure? (assignment : Assignment) (reads : Reads) : FetchKind → Option Failure
  | .leagueEntry =>
    (gathered .leagueEntry assignment.team reads.leagueEntry).failures.head?
  | .headToHead =>
    (gathered .headToHead (pairName assignment.opponents) reads.headToHead).failures.head?
  | .latestMatch =>
    (gathered .latestMatch assignment.team reads.latestMatch).failures.head?

/-- A failure of one read is one of the party's. -/
theorem Reads.mem_failures_of_failure? {assignment : Assignment} {reads : Reads}
    {kind : FetchKind} {f : Failure} (h : reads.failure? assignment kind = some f) :
    f ∈ (reads.gather assignment).failures := by
  rw [failures_gather]
  cases kind <;> have := List.mem_of_mem_head? h <;> simp [this]

/-- A party that fails to gather its reads has their failures. -/
theorem Reads.failures_party_of_gather {rules : Rules} {assignment : Assignment} {reads : Reads}
    {f : Failure} (h : f ∈ (reads.gather assignment).failures) :
    f ∈ (reads.party rules assignment).failures := by
  unfold party project Gathered.run
  cases hg : reads.gather assignment with
  | all v => rw [hg] at h; cases h
  | failed first others => rw [hg] at h; exact h

namespace Course

/-- Nothing has begun. -/
def start : Course := ⟨Seat.all, fun _ => FetchKind.all, [], [], fun _ => none, none⟩

/-- The reads that are left to start for the party. -/
def leave (c : Course) (seat : Seat) (kinds : List FetchKind) : Course :=
  { c with toRead := fun s => if s = seat then kinds else c.toRead s }

/-- The party has ended. -/
def close (c : Course) (seat : Seat) (result : Except Failure Projection) : Course :=
  { c with closed := fun s => if s = seat then some result else c.closed s }

/-- What a party ends with once its values are there. -/
def result : Gathered Projection → Except Failure Projection
  | .all projection => .ok projection
  | .failed first _ => .error first

/-- What the settlement comes to once it has ended: the rows of the three projections, or its
failure. -/
def rows (rules : Rules) : Except Failure (Trio Projection) → Run (List SettlementRow)
  | .ok projections => (Gathered.all projections).run (Settlement.all rules)
  | .error f => .failed f []

section

variable (rules : Rules) (assignments : Trio Assignment) (reads : Trio Reads)

/-- What one party comes to. -/
def party (seat : Seat) : Gathered Projection :=
  (reads.get seat).party rules (assignments.get seat)

/-- One step of a settlement whose reads end as `reads` says, those apart that never `return`. -/
inductive Step (returns : ReadOf → Prop) : Course → Course → Prop where
  /-- The task of the next party is started. -/
  | begin {c : Course} {seat : Seat} {rest : List Seat} (next : c.toStart = seat :: rest) :
    Step returns c { c with toStart := rest }
  /-- A party's task starts the task of its next read. -/
  | spawn {c : Course} {seat : Seat} {kind : FetchKind} {rest : List FetchKind}
      (begun : seat ∉ c.toStart) (next : c.toRead seat = kind :: rest) :
    Step returns c (c.leave seat rest)
  /-- A read's task asks for it. -/
  | ask {c : Course} {read : ReadOf} (begun : read.1 ∉ c.toStart)
      (spawned : read.2 ∉ c.toRead read.1) (new : read ∉ c.asked) :
    Step returns c { c with asked := read :: c.asked }
  /-- A read comes back. -/
  | answer {c : Course} {read : ReadOf} (does : returns read) (asked : read ∈ c.asked)
      (new : read ∉ c.back) :
    Step returns c { c with back := read :: c.back }
  /-- A party that has started all its reads sees one that failed. -/
  | fail {c : Course} {seat : Seat} {kind : FetchKind} {f : Failure}
      (waits : c.toRead seat = []) (back : (seat, kind) ∈ c.back) (going : c.closed seat = none)
      (failed : (reads.get seat).failure? (assignments.get seat) kind = some f) :
    Step returns c (c.close seat (.error f))
  /-- A party has all its values. -/
  | build {c : Course} {seat : Seat} {values : Standing × List Fixture × Fixture}
      (waits : c.toRead seat = []) (back : ∀ kind, (seat, kind) ∈ c.back)
      (going : c.closed seat = none)
      (all : (reads.get seat).gather (assignments.get seat) = .all values) :
    Step returns c (c.close seat (result (party rules assignments reads seat)))
  /-- The settlement, with all parties' tasks started, sees a party that failed. -/
  | stop {c : Course} {seat : Seat} {f : Failure} (waits : c.toStart = []) (going : c.ended = none)
      (failed : c.closed seat = some (.error f)) :
    Step returns c { c with ended := some (.error f) }
  /-- The settlement has all projections. -/
  | finish {c : Course} {projections : Trio Projection} (waits : c.toStart = [])
      (going : c.ended = none)
      (all : ∀ seat, c.closed seat = some (.ok (projections.get seat))) :
    Step returns c { c with ended := some (.ok projections) }

/-- The courses that a settlement can take. -/
inductive Reachable (returns : ReadOf → Prop) : Course → Prop where
  | start : Reachable returns start
  | tail {c c' : Course} (before : Reachable returns c)
      (step : Step rules assignments reads returns c c') : Reachable returns c'

end

variable {rules : Rules} {assignments : Trio Assignment} {reads : Trio Reads}
variable {returns : ReadOf → Prop} {c c' : Course}

/-! ## No read twice -/

theorem asked_nodup_step (h : c.asked.Nodup) (hs : Step rules assignments reads returns c c') :
    c'.asked.Nodup := by
  cases hs with
  | ask _ _ new => exact List.nodup_cons.mpr ⟨new, h⟩
  | begin _ => exact h
  | spawn _ _ => exact h
  | answer _ _ _ => exact h
  | fail _ _ _ _ => exact h
  | build _ _ _ _ => exact h
  | stop _ _ _ => exact h
  | finish _ _ _ => exact h

theorem Reachable.asked_nodup (h : Reachable rules assignments reads returns c) :
    c.asked.Nodup := by
  induction h with
  | start => exact List.nodup_nil
  | tail _ hs ih => exact asked_nodup_step ih hs

/-! ## Ends are what was gathered -/

/-- A party has ended with what it comes to: its projection, or one of its failures. -/
def Agrees (party : Gathered Projection) : Except Failure Projection → Prop
  | .ok projection => party = .all projection
  | .error f => f ∈ party.failures

theorem agrees_result (party : Gathered Projection) : Agrees party (result party) := by
  cases party with
  | all projection => exact rfl
  | failed first others => exact List.mem_cons_self

theorem closed_close_iff {seat other : Seat} {r : Except Failure Projection}
    {x : Except Failure Projection} :
    (c.close seat r).closed other = some x ↔
      (other = seat ∧ r = x) ∨ (other ≠ seat ∧ c.closed other = some x) := by
  by_cases h : other = seat <;> simp [close, h]

/-- **Every party that has ended agrees with what it gathered.** -/
theorem Reachable.closed_agrees (h : Reachable rules assignments reads returns c) (seat : Seat)
    (x : Except Failure Projection) (hx : c.closed seat = some x) :
    Agrees (party rules assignments reads seat) x := by
  induction h generalizing seat x with
  | start => cases hx
  | tail _ hs ih =>
    cases hs with
    | begin _ => exact ih seat x hx
    | spawn _ _ => exact ih seat x hx
    | ask _ _ _ => exact ih seat x hx
    | answer _ _ _ => exact ih seat x hx
    | stop _ _ _ => exact ih seat x hx
    | finish _ _ _ => exact ih seat x hx
    | fail _ _ _ failed =>
      rcases closed_close_iff.mp hx with ⟨rfl, rfl⟩ | ⟨_, hold⟩
      · exact Reads.failures_party_of_gather (Reads.mem_failures_of_failure? failed)
      · exact ih seat x hold
    | build _ _ _ _ =>
      rcases closed_close_iff.mp hx with ⟨rfl, rfl⟩ | ⟨_, hold⟩
      · exact agrees_result _
      · exact ih seat x hold

/-- The failures of a party are among those of all parties. -/
theorem mem_failures_parties {seat : Seat} {f : Failure}
    (h : f ∈ (party rules assignments reads seat).failures) :
    f ∈ (Reads.parties rules assignments reads).failures := by
  unfold Reads.parties
  rw [Gathered.failures_both, Gathered.failures_both]
  cases seat <;> simp only [List.mem_append]
  · exact Or.inl h
  · exact Or.inr (Or.inl h)
  · exact Or.inr (Or.inr h)

/-- How the settlement has ended agrees with what all parties come to. -/
def EndAgrees (parties : Gathered (Projection × Projection × Projection)) :
    Except Failure (Trio Projection) → Prop
  | .ok ps => parties = .all (ps.first, ps.second, ps.third)
  | .error f => f ∈ parties.failures

/-- **Whatever the order, the end agrees with what was gathered.** -/
theorem Reachable.ended_agrees (h : Reachable rules assignments reads returns c)
    (x : Except Failure (Trio Projection)) (hx : c.ended = some x) :
    EndAgrees (Reads.parties rules assignments reads) x := by
  induction h generalizing x with
  | start => cases hx
  | tail before hs ih =>
    cases hs with
    | begin _ => exact ih x hx
    | spawn _ _ => exact ih x hx
    | ask _ _ _ => exact ih x hx
    | answer _ _ _ => exact ih x hx
    | fail _ _ _ _ => exact ih x hx
    | build _ _ _ _ => exact ih x hx
    | stop _ _ failed =>
      obtain rfl := Option.some.inj hx
      exact mem_failures_parties (before.closed_agrees _ _ failed)
    | @finish ps _ _ all =>
      obtain rfl := Option.some.inj hx
      have h1 : (reads.first).party rules assignments.first = .all ps.first :=
        before.closed_agrees _ _ (all .first)
      have h2 : (reads.second).party rules assignments.second = .all ps.second :=
        before.closed_agrees _ _ (all .second)
      have h3 : (reads.third).party rules assignments.third = .all ps.third :=
        before.closed_agrees _ _ (all .third)
      show Reads.parties rules assignments reads = _
      rw [Reads.parties, h1, h2, h3]
      rfl

theorem Reachable.failure_mem (h : Reachable rules assignments reads returns c) {f : Failure}
    (hf : c.ended = some (.error f)) : f ∈ (Reads.parties rules assignments reads).failures :=
  h.ended_agrees _ hf

theorem Reachable.parties_eq (h : Reachable rules assignments reads returns c)
    {ps : Trio Projection} (hp : c.ended = some (.ok ps)) :
    Reads.parties rules assignments reads = .all (ps.first, ps.second, ps.third) :=
  h.ended_agrees _ hp

end Course

end LeagueWager
