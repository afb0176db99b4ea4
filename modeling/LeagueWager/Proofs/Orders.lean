import LeagueWager.Proofs.Parties

/-!
# Every order of the tasks

Whichever of its tasks goes on next, a settlement takes a bounded number of steps, and it cannot
get stuck before it has ended if all its reads return. It ends with the three projections in every
order, if every party comes to one; and if not, each failure that a party can report is what some
order ends with, and nothing else is.

* `wellFounded_step`: no order goes on for ever;
* `Stuck.ended_ne_none`: an order that cannot go on has ended;
* `endsWith_ok_iff`, `endsWith_error_iff`: what the orders end with.
-/

namespace LeagueWager.Course

section

variable (rules : Rules) (assignments : Trio Assignment) (reads : Trio Reads)
variable (returns : ReadOf → Prop)

/-- Nothing can go on. -/
def Stuck (c : Course) : Prop := ∀ c', ¬ Step rules assignments reads returns c c'

/-- Some order ends with `x`. -/
def EndsWith (x : Except Failure (Trio Projection)) : Prop :=
  ∃ c, Reachable rules assignments reads returns c ∧ c.ended = some x

/-- Every read returns. -/
def allReturn : ReadOf → Prop := fun _ => True

end

variable {rules : Rules} {assignments : Trio Assignment} {reads : Trio Reads}
variable {returns : ReadOf → Prop} {c c' : Course}

/-! ## No order goes on for ever -/

/-- How many reads are not in the list. -/
def missing (seen : List ReadOf) : Nat := ReadOf.all.countP fun read => read ∉ seen

/-- How many tasks the parties have still to start. -/
def unread (toRead : Seat → List FetchKind) : Nat :=
  (toRead .first).length + (toRead .second).length + (toRead .third).length

/-- How many parties have not ended. -/
def going (closed : Seat → Option (Except Failure Projection)) : Nat :=
  Seat.all.countP fun seat => (closed seat).isNone

/-- How many steps are left at most. -/
def left (c : Course) : Nat :=
  c.toStart.length + unread c.toRead + missing c.asked + missing c.back + going c.closed
    + c.ended.elim 1 fun _ => 0

theorem missing_cons_lt {read : ReadOf} {seen : List ReadOf} (new : read ∉ seen) :
    missing (read :: seen) < missing seen := by
  have less (reads : List ReadOf) :
      reads.countP (fun r => r ∉ read :: seen) ≤ reads.countP (fun r => r ∉ seen) := by
    refine List.countP_mono_left fun r _ h => ?_
    simp only [List.mem_cons, not_or, decide_eq_true_eq] at h ⊢
    exact h.2
  unfold missing
  obtain ⟨before, after, hall⟩ := List.append_of_mem (ReadOf.mem_all read)
  rw [hall, List.countP_append, List.countP_append, List.countP_cons_of_neg (by simp),
    List.countP_cons_of_pos (by simpa using new)]
  have hb := less before
  have ha := less after
  omega

theorem unread_leave {seat : Seat} {kind : FetchKind} {rest : List FetchKind}
    (next : c.toRead seat = kind :: rest) :
    unread (c.leave seat rest).toRead + 1 = unread c.toRead := by
  unfold unread leave
  cases seat <;> simp [next] <;> omega

theorem going_close {seat : Seat} (r : Except Failure Projection) (none : c.closed seat = none) :
    going (c.close seat r).closed + 1 = going c.closed := by
  unfold going close Seat.all
  cases seat <;> simp [List.countP_cons, none] <;> omega

/-- **Every step leaves fewer.** -/
theorem left_step (hs : Step rules assignments reads returns c c') : c'.left < c.left := by
  cases hs with
  | begin next =>
    simp only [left, next, List.length_cons]
    omega
  | spawn _ next =>
    have := unread_leave next
    simp only [left, leave] at this ⊢
    omega
  | ask _ _ new =>
    have := missing_cons_lt new
    simp only [left]
    omega
  | answer _ _ new =>
    have := missing_cons_lt new
    simp only [left]
    omega
  | @fail seat _ f _ _ none _ =>
    have := going_close (.error f) none
    simp only [left, close] at this ⊢
    omega
  | @build seat _ _ _ none _ =>
    have := going_close (result (party rules assignments reads seat)) none
    simp only [left, close] at this ⊢
    omega
  | stop _ none _ => simp [left, none]
  | finish _ none _ => simp [left, none]

theorem wellFounded_step (rules : Rules) (assignments : Trio Assignment) (reads : Trio Reads)
    (returns : ReadOf → Prop) :
    WellFounded fun after before => Step rules assignments reads returns before after :=
  Subrelation.wf left_step (measure left).wf

/-- Every order can be followed until nothing can go on. -/
theorem Reachable.exists_stuck (h : Reachable rules assignments reads returns c) :
    ∃ c', Reachable rules assignments reads returns c' ∧
      Stuck rules assignments reads returns c' := by
  induction c using (wellFounded_step rules assignments reads returns).induction with
  | _ c ih =>
    by_cases hc : Stuck rules assignments reads returns c
    · exact ⟨c, h, hc⟩
    · simp only [Stuck, Classical.not_forall, Classical.not_not] at hc
      obtain ⟨c', hs⟩ := hc
      exact ih c' hs (.tail h hs)

/-! ## An order that cannot go on has ended -/

theorem Stuck.toStart_eq (h : Stuck rules assignments reads returns c) : c.toStart = [] := by
  cases ht : c.toStart with
  | nil => rfl
  | cons seat rest => exact absurd (.begin ht) (h _)

theorem Stuck.toRead_eq (h : Stuck rules assignments reads returns c) (seat : Seat) :
    c.toRead seat = [] := by
  cases ht : c.toRead seat with
  | nil => rfl
  | cons kind rest => exact absurd (.spawn (by simp [h.toStart_eq]) ht) (h _)

theorem Stuck.mem_asked (h : Stuck rules assignments reads returns c) (read : ReadOf) :
    read ∈ c.asked := by
  refine Decidable.byContradiction fun new => h _ (.ask ?_ ?_ new)
  · simp [h.toStart_eq]
  · simp [h.toRead_eq]

theorem Stuck.mem_back (h : Stuck rules assignments reads returns c) {read : ReadOf}
    (does : returns read) : read ∈ c.back :=
  Decidable.byContradiction fun new => h _ (.answer does (h.mem_asked read) new)

/-- A party with a failed read, or with all its values, ends. -/
theorem Stuck.closed_ne_none (h : Stuck rules assignments reads returns c) {seat : Seat}
    (does : ∀ kind, returns (seat, kind)) : c.closed seat ≠ none := by
  intro none
  cases hg : (reads.get seat).gather (assignments.get seat) with
  | all values =>
    exact h _ (.build (h.toRead_eq seat) (fun kind => h.mem_back (does kind)) none hg)
  | failed first others =>
    obtain ⟨kind, f, hf⟩ := Reads.exists_failure?_of_failed hg
    exact h _ (.fail (h.toRead_eq seat) (h.mem_back (does kind)) none hf)

theorem Stuck.ended_ne_none (h : Stuck rules assignments reads returns c)
    (does : ∀ read, returns read) : c.ended ≠ none := by
  intro none
  by_cases hf : ∃ seat f, c.closed seat = some (.error f)
  · obtain ⟨seat, f, failed⟩ := hf
    exact h _ (.stop h.toStart_eq none failed)
  · have all (seat : Seat) : ∃ projection, c.closed seat = some (.ok projection) := by
      cases hx : c.closed seat with
      | none => exact absurd hx (h.closed_ne_none fun kind => does _)
      | some x =>
        cases x with
        | ok projection => exact ⟨projection, rfl⟩
        | error f => exact absurd ⟨seat, f, hx⟩ hf
    obtain ⟨p, hp⟩ := all .first
    obtain ⟨q, hq⟩ := all .second
    obtain ⟨r, hr⟩ := all .third
    have all' (seat : Seat) :
        c.closed seat = some (.ok ((⟨p, q, r⟩ : Trio Projection).get seat)) := by
      cases seat with
      | first => exact hp
      | second => exact hq
      | third => exact hr
    exact h _ (.finish h.toStart_eq none all')

/-! ## Orders that end with a given failure -/

theorem leave_self {seat : Seat} : c.leave seat (c.toRead seat) = c := by
  have same : (fun s => if s = seat then c.toRead seat else c.toRead s) = c.toRead := by
    funext s
    split
    · rename_i h
      rw [h]
    · rfl
  unfold leave
  rw [same]

theorem leave_leave {seat : Seat} {some rest : List FetchKind} :
    (c.leave seat some).leave seat rest = c.leave seat rest := by
  have same : (fun s => if s = seat then rest else (c.leave seat some).toRead s) =
      fun s => if s = seat then rest else c.toRead s := by
    funext s
    by_cases h : s = seat <;> simp [leave, h]
  unfold leave at same ⊢
  rw [same]

/-- The tasks of all parties can be started. -/
theorem Reachable.begun (h : Reachable rules assignments reads returns c) :
    Reachable rules assignments reads returns { c with toStart := [] } := by
  generalize ht : c.toStart = seats
  induction seats generalizing c with
  | nil =>
    rw [← ht]
    exact h
  | cons seat rest ih =>
    have next := Reachable.tail h (.begin ht)
    have all := ih next rfl
    exact all

/-- A party can start all its reads. -/
theorem Reachable.spawned (h : Reachable rules assignments reads returns c) (ht : c.toStart = [])
    (seat : Seat) : Reachable rules assignments reads returns (c.leave seat []) := by
  generalize hk : c.toRead seat = kinds
  induction kinds generalizing c with
  | nil =>
    rw [← hk, leave_self]
    exact h
  | cons kind rest ih =>
    have next := Reachable.tail h (.spawn (by simp [ht]) hk)
    have := ih next ht (by simp [leave])
    rwa [leave_leave] at this

/-- All parties can start all their reads. -/
theorem Reachable.allSpawned (h : Reachable rules assignments reads returns c)
    (ht : c.toStart = []) :
    Reachable rules assignments reads returns { c with toRead := fun _ => [] } := by
  have none : (((c.leave .first []).leave .second []).leave .third []).toRead = fun _ => [] := by
    funext seat
    cases seat <;> rfl
  have same : ((c.leave .first []).leave .second []).leave .third []
      = { c with toRead := fun _ => [] } :=
    congrArg (fun toRead => ({ c with toRead := toRead } : Course)) none
  rw [← same]
  exact ((h.spawned ht .first).spawned ht .second).spawned ht .third

/-- All tasks are started, and the reads of a list are back. -/
def answered (seen : List ReadOf) : Course := ⟨[], fun _ => [], seen, seen, fun _ => none, none⟩

/-- Any reads that return can be the only ones that are back. -/
theorem reachable_answered {seen : List ReadOf} (nodup : seen.Nodup)
    (does : ∀ read ∈ seen, returns read) :
    Reachable rules assignments reads returns (answered seen) := by
  induction seen with
  | nil =>
    have started : Reachable rules assignments reads returns start := .start
    exact started.begun.allSpawned rfl
  | cons read seen ih =>
    obtain ⟨new, nodup⟩ := List.nodup_cons.mp nodup
    have before := ih nodup fun r hr => does r (List.mem_cons_of_mem _ hr)
    have asked : Reachable rules assignments reads returns
        { answered seen with asked := read :: seen } :=
      .tail before (.ask List.not_mem_nil List.not_mem_nil new)
    exact .tail asked (.answer (does read List.mem_cons_self) List.mem_cons_self new)

/-- A settlement can end with the failure of a party that failed. -/
theorem Reachable.endsWith_close {seat : Seat} {f : Failure} {seen : List ReadOf}
    (h : Reachable rules assignments reads returns ((answered seen).close seat (.error f))) :
    EndsWith rules assignments reads returns (.error f) :=
  ⟨_, .tail h (.stop rfl rfl (closed_close_iff.mpr (.inl ⟨rfl, rfl⟩))), rfl⟩

/-- The failure of a read can be the end, whether or not any other read returns. -/
theorem endsWith_of_failure? {seat : Seat} {kind : FetchKind} {f : Failure}
    (does : returns (seat, kind))
    (failed : (reads.get seat).failure? (assignments.get seat) kind = some f) :
    EndsWith rules assignments reads returns (.error f) := by
  have back : Reachable rules assignments reads returns (answered [(seat, kind)]) :=
    reachable_answered (by simp) fun read hr => by
      rw [List.mem_singleton.mp hr]
      exact does
  exact (Reachable.tail back (.fail rfl List.mem_cons_self rfl failed)).endsWith_close

/-- That a projection cannot be built can be the end, whether or not the reads for the other parties
return. -/
theorem endsWith_of_overflow {seat : Seat} {row : Standing} {fixtures : List Fixture}
    {latest : Fixture} {cause : Overflow} (does : ∀ kind, returns (seat, kind))
    (values : (reads.get seat).Return row fixtures latest)
    (overflows : Projection.build rules (assignments.get seat) row fixtures latest = .error cause) :
    EndsWith rules assignments reads returns (.error (.crashed cause.message)) := by
  have nodup : (FetchKind.all.map fun kind => (seat, kind)).Nodup := by cases seat <;> decide
  have back : Reachable rules assignments reads returns
      (answered (FetchKind.all.map fun kind => (seat, kind))) :=
    reachable_answered nodup fun read hr => by
      obtain ⟨kind, _, rfl⟩ := List.mem_map.mp hr
      exact does kind
  have closed := Reachable.tail back (.build rfl
    (fun kind => List.mem_map.mpr ⟨kind, FetchKind.mem_all kind, rfl⟩) rfl
    (Reads.gather_eq_all_iff.mpr values))
  have hr : result (party rules assignments reads seat) = .error (.crashed cause.message) := by
    unfold party
    rw [Reads.party_of_return values, overflows]
    rfl
  rw [hr] at closed
  exact closed.endsWith_close

end LeagueWager.Course
