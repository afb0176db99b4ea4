import LeagueWager.Provider
import LeagueWager.Settlement
import LeagueWager.Text.Quoted

/-!
# From reads to rows

A settlement reads three things for each of three parties, all at the same time. If every read
returns a value, the projections are built and settled. If any fails, the settlement fails; with
several failures it is left open which of them is reported, so all are kept, in the order of the
parties and of their reads.

* `Gathered.failures_both`, `Reads.failures_gather`: no failure is lost or added on the way.
-/

namespace LeagueWager

/-- Why a settlement fails. -/
inductive Failure where
  /-- A read of `kind` for `team` failed. -/
  | fetch (kind : FetchKind) (team : String) (source : ReadError)
  /-- A task broke down with a message. -/
  | crashed (message : String)
  deriving DecidableEq, Repr

/-- What is reported of a settlement that fails. The number of a task that broke down has no
meaning of its own; `N` stands for it. -/
def Failure.message : Failure → String
  | .fetch kind team source => s!"Failed to fetch {kind.words} for {team}: {source.message}"
  | .crashed message =>
    "Team projection task failed: task N panicked with message " ++ Text.quoted message

/-- What several reads have brought together: all their values, or every failure. -/
inductive Gathered (α : Type) where
  | all (value : α)
  | failed (first : Failure) (others : List Failure)
  deriving DecidableEq, Repr

namespace Gathered

variable {α β : Type}

/-- Two gatherings as one; the failures of the first come first. -/
def both : Gathered α → Gathered β → Gathered (α × β)
  | .all a, .all b => .all (a, b)
  | .all _, .failed first others => .failed first others
  | .failed first others, .all _ => .failed first others
  | .failed first others, .failed next more => .failed first (others ++ next :: more)

/-- The failures. -/
def failures : Gathered α → List Failure
  | .all _ => []
  | .failed first others => first :: others

theorem failures_both (x : Gathered α) (y : Gathered β) :
    (both x y).failures = x.failures ++ y.failures := by
  cases x <;> cases y <;> simp [both, failures]

theorem both_eq_all_iff {x : Gathered α} {y : Gathered β} {a : α} {b : β} :
    both x y = .all (a, b) ↔ x = .all a ∧ y = .all b := by
  cases x <;> cases y <;> simp [both]

end Gathered

/-- How a computation on several reads ends. -/
inductive Run (α : Type) where
  | done (value : α)
  /-- One of the failures is reported. -/
  | failed (first : Failure) (others : List Failure)
  /-- A figure does not fit. -/
  | overflow (cause : Overflow)
  deriving DecidableEq, Repr

/-- A computation on what was gathered. -/
def Gathered.run {α β : Type} (gathered : Gathered α) (compute : α → Except Overflow β) : Run β :=
  match gathered with
  | .failed first others => .failed first others
  | .all a =>
    match compute a with
    | .ok b => .done b
    | .error cause => .overflow cause

/-- How the three reads for one party end. -/
structure Reads where
  leagueEntry : Read Standing
  headToHead : Read (List Fixture)
  latestMatch : Read Fixture
  deriving DecidableEq, Repr

namespace Reads

/-- The reads of a provider for one party. -/
def ofProvider (provider : Provider) (assignment : Assignment) : Reads where
  leagueEntry := provider.leagueEntry assignment.team
  headToHead := provider.headToHead assignment.opponents.1 assignment.opponents.2
  latestMatch := provider.latestMatch assignment.team

/-- The name of the pair of teams in a failure. -/
def pairName (opponents : String × String) : String := s!"{opponents.1} v {opponents.2}"

/-- A read of `kind` for `team`, as something gathered. -/
def gathered {α : Type} (kind : FetchKind) (team : String) : Read α → Gathered α
  | .value a => .all a
  | .failed e => .failed (.fetch kind team e) []
  | .crashed message => .failed (.crashed message) []

/-- The values of the three reads, or their failures. -/
def gather (assignment : Assignment) (reads : Reads) :
    Gathered (Standing × List Fixture × Fixture) :=
  (gathered .leagueEntry assignment.team reads.leagueEntry).both <|
    (gathered .headToHead (pairName assignment.opponents) reads.headToHead).both <|
      gathered .latestMatch assignment.team reads.latestMatch

/-- The projection of one party. -/
def project (rules : Rules) (assignment : Assignment) (reads : Reads) : Run Projection :=
  (reads.gather assignment).run fun (row, fixtures, latest) =>
    Projection.build rules assignment row fixtures latest

/-- The projection of one party among three: that it cannot be built is a failure like others. -/
def party (rules : Rules) (assignment : Assignment) (reads : Reads) : Gathered Projection :=
  match reads.project rules assignment with
  | .done projection => .all projection
  | .failed first others => .failed first others
  | .overflow cause => .failed (.crashed cause.message) []

/-- The three parties' projections. -/
def parties (rules : Rules) (assignments : Trio Assignment) (reads : Trio Reads) :
    Gathered (Projection × Projection × Projection) :=
  (party rules assignments.first reads.first).both <|
    (party rules assignments.second reads.second).both <|
      party rules assignments.third reads.third

/-- The ranked rows of three parties. -/
def settle (rules : Rules) (assignments : Trio Assignment) (reads : Trio Reads) :
    Run (List SettlementRow) :=
  (parties rules assignments reads).run fun (first, second, third) =>
    Settlement.all rules ⟨first, second, third⟩

/-- The failures of a party's reads are those of its three reads, in order. -/
theorem failures_gather (assignment : Assignment) (reads : Reads) :
    (reads.gather assignment).failures =
      (gathered .leagueEntry assignment.team reads.leagueEntry).failures
        ++ (gathered .headToHead (pairName assignment.opponents) reads.headToHead).failures
        ++ (gathered .latestMatch assignment.team reads.latestMatch).failures := by
  simp only [gather, Gathered.failures_both, List.append_assoc]

end Reads

/-- The settlement of three assignments through a provider. -/
def Provider.settle (provider : Provider) (rules : Rules) (assignments : Trio Assignment) :
    Run (List SettlementRow) :=
  Reads.settle rules assignments (assignments.map (Reads.ofProvider provider))

/-- The projection of one assignment through a provider. -/
def Provider.project (provider : Provider) (rules : Rules) (assignment : Assignment) :
    Run Projection :=
  (Reads.ofProvider provider assignment).project rules assignment

end LeagueWager
