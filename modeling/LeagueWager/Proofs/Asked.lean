import LeagueWager.Proofs.Dump
import LeagueWager.Proofs.Rows
import Mathlib.Data.List.Perm.Subperm

/-!
# Every read is asked for once

A settlement may end while tasks of its own have not even begun. Its end stops nothing: a party's
task that was started goes on to start its reads, a read's task goes on to ask for its read, and a
read that was asked for goes on until it is back, whether or not anybody still waits for it. So
however the tasks go on, and whichever read is the first to fail, the provider is asked the same
nine questions, each of them once.

* `asked_suffix_step`: no step takes back a read that was asked for, or one that is back;
* `Reachable.calls_subperm`: at any time, some of the nine questions were asked;
* `Stuck.calls_perm`: when nothing can go on, all of them were;
* `every_read_once`: all of it together.
-/

namespace LeagueWager.Course

open Feed (Query questionOf)

/-- The questions that a settlement of the assignments has for its provider. -/
def questions (assignments : Trio Assignment) : List Query :=
  assignments.toList.flatMap fun assignment => [.leagueEntry assignment.team,
    .headToHead assignment.opponents.1 assignment.opponents.2, .latestMatch assignment.team]

/-- The questions that the provider was asked, in order. -/
def calls (assignments : Trio Assignment) (c : Course) : List Query :=
  c.asked.reverse.map (questionOf assignments)

/-- They are those of the nine reads. -/
theorem questions_eq (assignments : Trio Assignment) :
    questions assignments = ReadOf.all.map (questionOf assignments) := rfl

/-- What a party reads are the provider's answers to its three questions. -/
theorem ofProvider_eq (provider : Provider) (assignments : Trio Assignment) (seat : Seat) :
    (assignments.map (Reads.ofProvider provider)).get seat
      = ⟨(questionOf assignments (seat, .leagueEntry)).ofProvider provider,
        (questionOf assignments (seat, .headToHead)).ofProvider provider,
        (questionOf assignments (seat, .latestMatch)).ofProvider provider⟩ := by
  cases seat <;> rfl

variable {rules : Rules} {assignments : Trio Assignment} {reads : Trio Reads}
variable {returns : ReadOf → Prop} {c c' : Course}

/-! ## Nothing is taken back -/

/-- **No step takes back a read**, be it the step that ends a party or the settlement. -/
theorem asked_suffix_step (hs : Step rules assignments reads returns c c') :
    c.asked <:+ c'.asked ∧ c.back <:+ c'.back := by
  cases hs with
  | ask _ _ _ => exact ⟨List.suffix_cons _ _, List.suffix_refl _⟩
  | answer _ _ _ => exact ⟨List.suffix_refl _, List.suffix_cons _ _⟩
  | begin _ => exact ⟨List.suffix_refl _, List.suffix_refl _⟩
  | spawn _ _ => exact ⟨List.suffix_refl _, List.suffix_refl _⟩
  | fail _ _ _ _ => exact ⟨List.suffix_refl _, List.suffix_refl _⟩
  | build _ _ _ _ => exact ⟨List.suffix_refl _, List.suffix_refl _⟩
  | stop _ _ _ => exact ⟨List.suffix_refl _, List.suffix_refl _⟩
  | finish _ _ _ => exact ⟨List.suffix_refl _, List.suffix_refl _⟩

/-- What is back was asked for and returns, and came back once. -/
structure Returned (returns : ReadOf → Prop) (c : Course) : Prop where
  nodup : c.back.Nodup
  asked : ∀ read ∈ c.back, read ∈ c.asked
  does : ∀ read ∈ c.back, returns read

theorem returned_start : Returned returns start where
  nodup := List.nodup_nil
  asked := by
    intro read hr
    cases hr
  does := by
    intro read hr
    cases hr

theorem returned_step (h : Returned returns c) (hs : Step rules assignments reads returns c c') :
    Returned returns c' := by
  cases hs with
  | ask _ _ _ => exact ⟨h.nodup, fun read hr => List.mem_cons_of_mem _ (h.asked read hr), h.does⟩
  | answer does asked new =>
    refine ⟨List.nodup_cons.mpr ⟨new, h.nodup⟩, ?_, ?_⟩
    · intro read hr
      rcases List.mem_cons.mp hr with rfl | hr
      · exact asked
      · exact h.asked read hr
    · intro read hr
      rcases List.mem_cons.mp hr with rfl | hr
      · exact does
      · exact h.does read hr
  | begin _ => exact ⟨h.nodup, h.asked, h.does⟩
  | spawn _ _ => exact ⟨h.nodup, h.asked, h.does⟩
  | fail _ _ _ _ => exact ⟨h.nodup, h.asked, h.does⟩
  | build _ _ _ _ => exact ⟨h.nodup, h.asked, h.does⟩
  | stop _ _ _ => exact ⟨h.nodup, h.asked, h.does⟩
  | finish _ _ _ => exact ⟨h.nodup, h.asked, h.does⟩

theorem Reachable.returned (h : Reachable rules assignments reads returns c) :
    Returned returns c := by
  induction h with
  | start => exact returned_start
  | tail _ hs ih => exact returned_step ih hs

/-! ## The nine questions -/

/-- **At any time, some of the nine questions were asked, none of them twice.** -/
theorem Reachable.calls_subperm (h : Reachable rules assignments reads returns c) :
    (c.calls assignments).Subperm (questions assignments) := by
  have nodup : c.asked.reverse.Nodup := List.nodup_reverse.mpr h.asked_nodup
  obtain ⟨some, perm, sub⟩ : c.asked.reverse.Subperm ReadOf.all :=
    List.subperm_of_subset nodup fun read _ => ReadOf.mem_all read
  rw [questions_eq]
  exact ⟨some.map (questionOf assignments), perm.map _, sub.map _⟩

/-- **When nothing can go on, each of the nine questions was asked.** -/
theorem Stuck.calls_perm (h : Reachable rules assignments reads returns c)
    (stuck : Stuck rules assignments reads returns c) :
    (c.calls assignments).Perm (questions assignments) := by
  have all : ReadOf.all.Nodup := by decide
  have perm : c.asked.Perm ReadOf.all := by
    refine (List.perm_ext_iff_of_nodup h.asked_nodup all).mpr ?_
    intro read
    exact iff_of_true (stuck.mem_asked read) (ReadOf.mem_all read)
  rw [questions_eq]
  exact (c.asked.reverse_perm.trans perm).map (questionOf assignments)

/-! ## After the end -/

/-- An end is final. -/
theorem ended_step {x : Except Failure (Trio Projection)} (h : c.ended = some x)
    (hs : Step rules assignments reads returns c c') : c'.ended = some x := by
  cases hs with
  | begin _ => exact h
  | spawn _ _ => exact h
  | ask _ _ _ => exact h
  | answer _ _ _ => exact h
  | fail _ _ _ _ => exact h
  | build _ _ _ _ => exact h
  | stop _ going _ =>
    rw [going] at h
    cases h
  | finish _ going _ =>
    rw [going] at h
    cases h

/-- An order that has ended can be followed until nothing can go on. -/
theorem EndsWith.exists_stuck {x : Except Failure (Trio Projection)}
    (h : EndsWith rules assignments reads returns x) :
    ∃ c, Reachable rules assignments reads returns c ∧ Stuck rules assignments reads returns c ∧
      c.ended = some x := by
  obtain ⟨c, hc, hx⟩ := h
  induction c using (wellFounded_step rules assignments reads returns).induction with
  | _ c ih =>
    by_cases stuck : Stuck rules assignments reads returns c
    · exact ⟨c, hc, stuck, hx⟩
    · simp only [Stuck, Classical.not_forall, Classical.not_not] at stuck
      obtain ⟨c', hs⟩ := stuck
      exact ih c' hs (.tail hc hs) (ended_step hx hs)

/-- **No read is lost, repeated or broken off.** Whatever the provider answers, and whichever reads
never return: at any time, in any order of the tasks, the provider was asked some of the nine
questions of the settlement, none of them twice and nothing else; what is back was asked for and is
back once; and no step takes a read back. When nothing can go on, each of the nine questions was
asked, and all reads that return are back. No order goes on for ever, and however a settlement ends,
its tasks can be followed to where nothing can go on. What the parties see of the reads are the
provider's answers to these questions. -/
theorem every_read_once (provider : Provider) (rules : Rules) (assignments : Trio Assignment)
    (returns : ReadOf → Prop) :
    let reads := assignments.map (Reads.ofProvider provider)
    (∀ c, Reachable rules assignments reads returns c →
      (c.asked.Nodup ∧ (c.calls assignments).Subperm (questions assignments)) ∧
      Returned returns c ∧
      (∀ c', Step rules assignments reads returns c c' →
        c.asked <:+ c'.asked ∧ c.back <:+ c'.back) ∧
      (Stuck rules assignments reads returns c →
        (c.calls assignments).Perm (questions assignments) ∧
          ∀ read, read ∈ c.asked ∧ (returns read → read ∈ c.back))) ∧
    (WellFounded fun after before => Step rules assignments reads returns before after) ∧
    (∀ x, EndsWith rules assignments reads returns x →
      ∃ c, Reachable rules assignments reads returns c ∧ Stuck rules assignments reads returns c ∧
        c.ended = some x) ∧
    ∀ seat, reads.get seat
      = ⟨(questionOf assignments (seat, .leagueEntry)).ofProvider provider,
        (questionOf assignments (seat, .headToHead)).ofProvider provider,
        (questionOf assignments (seat, .latestMatch)).ofProvider provider⟩ := by
  intro reads
  refine ⟨?_, wellFounded_step _ _ _ _, fun x ends => ends.exists_stuck,
    ofProvider_eq provider assignments⟩
  intro c hc
  refine ⟨⟨hc.asked_nodup, hc.calls_subperm⟩, hc.returned, fun c' hs => asked_suffix_step hs, ?_⟩
  intro stuck
  refine ⟨stuck.calls_perm hc, ?_⟩
  intro read
  exact ⟨stuck.mem_asked read, fun does => stuck.mem_back does⟩

/-- A provider that fails at one kind of read and breaks down at the others. -/
def failingProvider : Provider where
  leagueEntry _ := .failed (.unavailable "closed")
  headToHead _ _ := .crashed "boom"
  latestMatch _ := .crashed "boom"

/-- Only the first party's table row comes back. -/
def firstRowOnly : ReadOf → Prop := fun read => read = (.first, .leagueEntry)

/-- One read is enough for the settlement to fail, and the other eight are asked for as well. -/
theorem every_read_once_firstRowOnly :
    ∃ c f, Reachable .standard Config.plain.assignments
        (Config.plain.assignments.map (Reads.ofProvider failingProvider)) firstRowOnly c ∧
      Stuck .standard Config.plain.assignments
        (Config.plain.assignments.map (Reads.ofProvider failingProvider)) firstRowOnly c ∧
      c.ended = some (.error f) ∧
      (c.calls Config.plain.assignments).Perm (questions Config.plain.assignments) ∧
      (.first, .leagueEntry) ∈ c.back ∧ (.second, .leagueEntry) ∉ c.back := by
  obtain ⟨always, _, ends, _⟩ :=
    every_read_once failingProvider .standard Config.plain.assignments firstRowOnly
  have back : firstRowOnly (.first, .leagueEntry) := rfl
  have failed : EndsWith .standard Config.plain.assignments
      (Config.plain.assignments.map (Reads.ofProvider failingProvider)) firstRowOnly
      (.error (.fetch .leagueEntry "Liverpool" (.unavailable "closed"))) :=
    endsWith_of_failure? back rfl
  obtain ⟨c, hc, stuck, hx⟩ := ends _ failed
  obtain ⟨_, returned, _, last⟩ := always c hc
  obtain ⟨all, each⟩ := last stuck
  refine ⟨c, _, hc, stuck, hx, all, (each _).2 back, ?_⟩
  intro back
  cases returned.does _ back

end LeagueWager.Course
