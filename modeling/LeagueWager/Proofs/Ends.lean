import LeagueWager.Proofs.Orders

/-!
# What a settlement ends with

The orders of its tasks are traced back to its nine reads: if all parties come to a projection,
every order ends with the three of them, each in its place; and if not, no order does, and the
failures that some order ends with are those that some party can report. What is gathered from the
reads without any order tells the same.

* `endsWith_ok_iff`, `endsWith_error_iff`: what the orders end with;
* `endsWith_iff_settle`: what is told of the gathered reads is what some order comes to;
* `every_order`: all of it together.
-/

namespace LeagueWager

/-- What a run on gathered reads leaves open: which of several failures is reported. -/
def Run.Allows {α : Type} : Run α → Run α → Prop
  | .failed first others, one => ∃ f ∈ first :: others, one = .failed f []
  | .done a, one => one = .done a
  | .overflow cause, one => one = .overflow cause

namespace Course

variable {rules : Rules} {assignments : Trio Assignment} {reads : Trio Reads}
variable {returns : ReadOf → Prop} {c : Course}

/-! ## All parties together -/

theorem parties_eq_all_iff {ps : Trio Projection} :
    Reads.parties rules assignments reads = .all (ps.first, ps.second, ps.third) ↔
      ∀ seat, (reads.get seat).Builds rules (assignments.get seat) (ps.get seat) := by
  unfold Reads.parties
  rw [Gathered.both_eq_all_iff, Gathered.both_eq_all_iff, Reads.party_eq_all_iff,
    Reads.party_eq_all_iff, Reads.party_eq_all_iff]
  constructor
  · rintro ⟨first, second, third⟩ seat
    cases seat with
    | first => exact first
    | second => exact second
    | third => exact third
  · intro h
    exact ⟨h .first, h .second, h .third⟩

theorem mem_failures_parties_iff {f : Failure} :
    f ∈ (Reads.parties rules assignments reads).failures ↔
      ∃ seat, (reads.get seat).Reports rules (assignments.get seat) f := by
  constructor
  · unfold Reads.parties
    rw [Gathered.failures_both, Gathered.failures_both, List.mem_append, List.mem_append]
    rintro (h | h | h)
    · exact ⟨.first, Reads.mem_failures_party_iff.mp h⟩
    · exact ⟨.second, Reads.mem_failures_party_iff.mp h⟩
    · exact ⟨.third, Reads.mem_failures_party_iff.mp h⟩
  · rintro ⟨seat, h⟩
    exact mem_failures_parties (Reads.mem_failures_party_iff.mpr h)

/-- The projections that the parties come to are theirs alone. -/
theorem trio_unique {ps qs : Trio Projection}
    (hp : ∀ seat, (reads.get seat).Builds rules (assignments.get seat) (ps.get seat))
    (hq : ∀ seat, (reads.get seat).Builds rules (assignments.get seat) (qs.get seat)) :
    ps = qs := by
  have same := (parties_eq_all_iff.mpr hp).symm.trans (parties_eq_all_iff.mpr hq)
  obtain ⟨p, q, r⟩ := ps
  obtain ⟨p', q', r'⟩ := qs
  cases same
  rfl

/-! ## What the orders end with -/

theorem Reachable.builds (h : Reachable rules assignments reads returns c) {ps : Trio Projection}
    (hp : c.ended = some (.ok ps)) (seat : Seat) :
    (reads.get seat).Builds rules (assignments.get seat) (ps.get seat) :=
  parties_eq_all_iff.mp (h.parties_eq hp) seat

theorem Reachable.reports (h : Reachable rules assignments reads returns c) {f : Failure}
    (hf : c.ended = some (.error f)) :
    ∃ seat, (reads.get seat).Reports rules (assignments.get seat) f :=
  mem_failures_parties_iff.mp (h.failure_mem hf)

/-- A settlement that ends has projections exactly if every party comes to one. -/
theorem Reachable.ok_iff (h : Reachable rules assignments reads returns c)
    {x : Except Failure (Trio Projection)} (hx : c.ended = some x) :
    (∃ ps, x = .ok ps) ↔ ∀ seat, ∃ p, (reads.get seat).Builds rules (assignments.get seat) p := by
  constructor
  · rintro ⟨ps, rfl⟩ seat
    exact ⟨ps.get seat, h.builds hx seat⟩
  · intro hb
    cases x with
    | ok ps => exact ⟨ps, rfl⟩
    | error f =>
      obtain ⟨seat, hr⟩ := h.reports hx
      obtain ⟨p, hp⟩ := hb seat
      exact absurd hr (Reads.not_reports_of_builds hp)

/-- Some order ends, if all reads return. -/
theorem exists_end (rules : Rules) (assignments : Trio Assignment) (reads : Trio Reads)
    (does : ∀ read, returns read) :
    ∃ x, EndsWith rules assignments reads returns x := by
  have started : Reachable rules assignments reads returns start := .start
  obtain ⟨c, hc, stuck⟩ := started.exists_stuck
  obtain ⟨x, hx⟩ := Option.ne_none_iff_exists'.mp (stuck.ended_ne_none does)
  exact ⟨x, c, hc, hx⟩

theorem endsWith_ok_iff (does : ∀ read, returns read) {ps : Trio Projection} :
    EndsWith rules assignments reads returns (.ok ps) ↔
      ∀ seat, (reads.get seat).Builds rules (assignments.get seat) (ps.get seat) := by
  constructor
  · rintro ⟨c, hc, hp⟩
    exact hc.builds hp
  · intro hb
    obtain ⟨x, c, hc, hx⟩ := exists_end rules assignments reads does
    obtain ⟨qs, rfl⟩ := (hc.ok_iff hx).mpr fun seat => ⟨_, hb seat⟩
    obtain rfl := trio_unique hb (hc.builds hx)
    exact ⟨c, hc, hx⟩

/-- **The failures that some order ends with are those that some party can report.** -/
theorem endsWith_error_iff (does : ∀ read, returns read) {f : Failure} :
    EndsWith rules assignments reads returns (.error f) ↔
      ∃ seat, (reads.get seat).Reports rules (assignments.get seat) f := by
  constructor
  · rintro ⟨c, hc, hf⟩
    exact hc.reports hf
  · rintro ⟨seat, h⟩
    cases h with
    | leagueEntry fails =>
      exact endsWith_of_failure? (does (seat, .leagueEntry))
        (Reads.head?_failures_gathered_iff.mpr fails)
    | headToHead fails =>
      exact endsWith_of_failure? (does (seat, .headToHead))
        (Reads.head?_failures_gathered_iff.mpr fails)
    | latestMatch fails =>
      exact endsWith_of_failure? (does (seat, .latestMatch))
        (Reads.head?_failures_gathered_iff.mpr fails)
    | build values overflows => exact endsWith_of_overflow (fun kind => does _) values overflows

/-- What is gathered tells which ends there are. -/
theorem endsWith_iff_parties (does : ∀ read, returns read) {x : Except Failure (Trio Projection)} :
    EndsWith rules assignments reads returns x ↔
      EndAgrees (Reads.parties rules assignments reads) x := by
  cases x with
  | ok ps => exact (endsWith_ok_iff does).trans parties_eq_all_iff.symm
  | error f => exact (endsWith_error_iff does).trans mem_failures_parties_iff.symm

/-! ## What the settlement tells -/

theorem allows_run_all {α β : Type} {a : α} {compute : α → Except Overflow β} {one : Run β} :
    ((Gathered.all a).run compute).Allows one ↔ one = (Gathered.all a).run compute := by
  unfold Gathered.run
  dsimp only
  cases compute a <;> exact Iff.rfl

/-- **The settlement of the gathered reads tells exactly what some order comes to.** -/
theorem endsWith_iff_settle (does : ∀ read, returns read) {one : Run (List SettlementRow)} :
    (∃ x, EndsWith rules assignments reads returns x ∧ rows rules x = one) ↔
      (Reads.settle rules assignments reads).Allows one := by
  simp only [endsWith_iff_parties does]
  unfold Reads.settle
  cases hp : Reads.parties rules assignments reads with
  | all value =>
    obtain ⟨p, q, r⟩ := value
    rw [allows_run_all]
    constructor
    · rintro ⟨x, hx, rfl⟩
      cases x with
      | ok ps =>
        cases hx
        rfl
      | error f => cases hx
    · rintro rfl
      exact ⟨.ok ⟨p, q, r⟩, rfl, rfl⟩
  | failed first others =>
    constructor
    · rintro ⟨x, hx, rfl⟩
      cases x with
      | ok ps => cases hx
      | error f => exact ⟨f, hx, rfl⟩
    · rintro ⟨f, hf, rfl⟩
      exact ⟨.error f, hf, rfl⟩

/-- A failed party leaves no order with rows. -/
theorem Reachable.no_rows_of_reports (h : Reachable rules assignments reads returns c)
    {x : Except Failure (Trio Projection)} (hx : c.ended = some x) {seat : Seat} {f : Failure}
    (hr : (reads.get seat).Reports rules (assignments.get seat) f) (list : List SettlementRow) :
    rows rules x ≠ .done list := by
  cases x with
  | ok ps => exact absurd hr (Reads.not_reports_of_builds (h.builds hx seat))
  | error _ =>
    intro h
    cases h

/-- **Whatever the reads come to, and in whatever order the tasks go on.** No order goes on for ever
or gets stuck. It ends with projections exactly if all reads return values from which all three can
be built, and then with those three, in the order of the parties. If not, it ends with a failure
and without rows, and the failures that some order ends with are those of the reads that fail or
break down and of the projections that cannot be built. -/
theorem every_order (rules : Rules) (assignments : Trio Assignment) (reads : Trio Reads) :
    (WellFounded fun after before => Step rules assignments reads allReturn before after) ∧
    (∀ c, Reachable rules assignments reads allReturn c →
      Stuck rules assignments reads allReturn c → ∃ x, c.ended = some x) ∧
    (∀ c x, Reachable rules assignments reads allReturn c → c.ended = some x →
      ((∃ ps, x = .ok ps) ↔
        ∀ seat, ∃ p, (reads.get seat).Builds rules (assignments.get seat) p)) ∧
    (∀ ps, EndsWith rules assignments reads allReturn (.ok ps) ↔
      ∀ seat, (reads.get seat).Builds rules (assignments.get seat) (ps.get seat)) ∧
    (∀ f, EndsWith rules assignments reads allReturn (.error f) ↔
      ∃ seat, (reads.get seat).Reports rules (assignments.get seat) f) ∧
    (∀ c x, Reachable rules assignments reads allReturn c → c.ended = some x →
      ∀ seat f, (reads.get seat).Reports rules (assignments.get seat) f →
        ∀ list, rows rules x ≠ .done list) ∧
    (∀ one, (∃ x, EndsWith rules assignments reads allReturn x ∧ rows rules x = one) ↔
      (Reads.settle rules assignments reads).Allows one) := by
  have does : ∀ read, allReturn read := fun _ => trivial
  refine ⟨wellFounded_step _ _ _ _, ?_, ?_, ?_, ?_, ?_, ?_⟩
  · intro c _ stuck
    exact Option.ne_none_iff_exists'.mp (stuck.ended_ne_none does)
  · intro c x hc hx
    exact hc.ok_iff hx
  · intro ps
    exact endsWith_ok_iff does
  · intro f
    exact endsWith_error_iff does
  · intro c x hc hx seat f hr list
    exact hc.no_rows_of_reports hx hr list
  · intro one
    exact endsWith_iff_settle does

end Course

end LeagueWager
