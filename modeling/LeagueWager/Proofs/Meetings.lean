import LeagueWager.Proofs.Extremes
import LeagueWager.Proofs.Rows

/-!
# Meetings between the teams

A fixture between two teams of the wager changes what the third party can hope for, and nobody
else's: for the two that meet it is one of their own. So a projection counts the open fixtures
between its rivals, and over the three projections each open meeting is counted once, provided that
the teams of the fixture can be told apart.

* `charges_iff_third`: the party that an open meeting is charged to;
* `sum_countP_charges`: the three counts add up to the open meetings;
* `charged_once`: both, for the projections of a configuration.
-/

namespace LeagueWager

open Season

namespace Seat

theorem exists_third : ∀ i j : Seat, i ≠ j → ∃ k : Seat, [i, j, k].Nodup := by
  have all : ∀ i j : Seat, i ≠ j → [i, j, first].Nodup ∨ [i, j, second].Nodup ∨ [i, j, third].Nodup
    := by decide
  intro i j ne
  obtain h | h | h := all i j ne
  · exact ⟨first, h⟩
  · exact ⟨second, h⟩
  · exact ⟨third, h⟩

theorem eq_of_nodup : ∀ i j k seat : Seat, [i, j, k].Nodup → [i, j, seat].Nodup → seat = k := by
  decide

theorem rivals_eq_or : ∀ i j seat : Seat, [i, j, seat].Nodup →
    seat.rivals = (i, j) ∨ seat.rivals = (j, i) := by
  decide

end Seat

namespace Config

variable {config : Config} {f : Fixture} {i j k seat : Seat}

/-- The fixture is an open one between the party's rivals. -/
def charges (config : Config) (seat : Seat) (f : Fixture) : Bool :=
  f.isOpen && f.isBetween (config.teamOf seat.rivals.1) (config.teamOf seat.rivals.2)

/-- The fixture is between two of the teams. -/
def isMeeting (config : Config) (f : Fixture) : Bool :=
  Seat.all.any fun i => Seat.all.any fun j =>
    i != j && f.isBetween (config.teamOf i) (config.teamOf j)

/-- How many of the three teams the fixture involves. -/
def teamsIn (config : Config) (f : Fixture) : Nat :=
  Seat.all.countP fun seat => f.involves (config.teamOf seat)

/-- The sides of a fixture are the teams of `i` and `j`, in this order. -/
structure Meets (config : Config) (f : Fixture) (i j : Seat) : Prop where
  home : f.homeTeam.answersTo (config.teamOf i) = true
  away : f.awayTeam.answersTo (config.teamOf j) = true

/-! ## One fixture -/

theorem isBetween_iff_meets :
    f.isBetween (config.teamOf i) (config.teamOf j) = true ↔
      config.Meets f i j ∨ config.Meets f j i := by
  simp only [Fixture.isBetween, Bool.or_eq_true, Bool.and_eq_true]
  constructor
  · rintro (⟨home, away⟩ | ⟨home, away⟩)
    · exact .inl ⟨home, away⟩
    · exact .inr ⟨home, away⟩
  · rintro (⟨home, away⟩ | ⟨home, away⟩)
    · exact .inl ⟨home, away⟩
    · exact .inr ⟨home, away⟩

theorem isMeeting_iff : config.isMeeting f = true ↔ ∃ i j, i ≠ j ∧ config.Meets f i j := by
  have any_iff : config.isMeeting f = true ↔
      ∃ i j, i ≠ j ∧ f.isBetween (config.teamOf i) (config.teamOf j) = true := by
    simp [isMeeting, Seat.mem_all]
  rw [any_iff]
  constructor
  · rintro ⟨i, j, ne, between⟩
    obtain meets | meets := isBetween_iff_meets.mp between
    · exact ⟨i, j, ne, meets⟩
    · exact ⟨j, i, ne.symm, meets⟩
  · rintro ⟨i, j, ne, meets⟩
    exact ⟨i, j, ne, isBetween_iff_meets.mpr (.inl meets)⟩

/-- A party is charged with the open fixtures in which the other two meet. -/
theorem charges_iff : config.charges seat f = true ↔
    f.isOpen = true ∧ ∃ i j, [i, j, seat].Nodup ∧ config.Meets f i j := by
  rw [charges, Bool.and_eq_true, isBetween_iff_meets]
  refine and_congr_right fun _ => ?_
  constructor
  · have apart : ∀ s : Seat, [s.rivals.1, s.rivals.2, s].Nodup ∧ [s.rivals.2, s.rivals.1, s].Nodup
      := by decide
    rintro (meets | meets)
    · exact ⟨_, _, (apart seat).1, meets⟩
    · exact ⟨_, _, (apart seat).2, meets⟩
  · rintro ⟨i, j, nodup, meets⟩
    -- rivals are listed in the order of the parties, whichever of them is at home
    obtain h | h := Seat.rivals_eq_or i j seat nodup
    · rw [h]
      exact .inl meets
    · rw [h]
      exact .inr meets

/-- **An open fixture between two teams is charged to the third party alone.** -/
theorem charges_iff_third (apart : Apart config.teamOf f) (isOpen : f.isOpen = true)
    (meets : config.Meets f i j) (nodup : [i, j, k].Nodup) :
    config.charges seat f = true ↔ seat = k := by
  rw [charges_iff]
  constructor
  · rintro ⟨_, i', j', nodup', meets'⟩
    -- the sides are told apart, so these are the same two
    obtain rfl : i' = i := apart.home i' i meets'.home meets.home
    obtain rfl : j' = j := apart.away j' j meets'.away meets.away
    exact Seat.eq_of_nodup i' j' k seat nodup nodup'
  · rintro rfl
    exact ⟨isOpen, i, j, nodup, meets⟩

theorem charges_eq_false_of_not_open (h : f.isOpen = false) : config.charges seat f = false := by
  rw [charges, h, Bool.false_and]

theorem charges_eq_false_of_not_meeting (h : config.isMeeting f = false) :
    config.charges seat f = false := by
  refine Bool.eq_false_iff.mpr fun charged => ?_
  obtain ⟨_, i, j, nodup, meets⟩ := charges_iff.mp charged
  have ne : i ≠ j := (ne_of_distinct nodup).1
  rw [isMeeting_iff.mpr ⟨i, j, ne, meets⟩] at h
  cases h

theorem two_le_teamsIn (h : config.isMeeting f = true) : 2 ≤ config.teamsIn f := by
  obtain ⟨i, j, ne, meets⟩ := isMeeting_iff.mp h
  have two : ∀ i j : Seat, i ≠ j →
      2 ≤ Seat.all.countP fun seat => decide (seat = i ∨ seat = j) := by decide
  refine Nat.le_trans (two i j ne) (List.countP_mono_left fun seat _ hseat => ?_)
  obtain rfl | rfl := of_decide_eq_true hseat
  · simp [Fixture.involves, meets.home]
  · simp [Fixture.involves, meets.away]

/-- One fixture adds one to the three counts if it is an open meeting, and else nothing. -/
theorem mark_charges (apart : Apart config.teamOf f) :
    mark (config.charges .first f) + mark (config.charges .second f)
      + mark (config.charges .third f) = mark (f.isOpen && config.isMeeting f) := by
  cases isOpen : f.isOpen with
  | false =>
    simp only [charges_eq_false_of_not_open isOpen]
    rfl
  | true =>
    cases meeting : config.isMeeting f with
    | false =>
      simp only [charges_eq_false_of_not_meeting meeting]
      rfl
    | true =>
      obtain ⟨i, j, ne, meets⟩ := isMeeting_iff.mp meeting
      obtain ⟨k, nodup⟩ := Seat.exists_third i j ne
      -- of the three marks, only that of the third party is one
      have charged (seat : Seat) : config.charges seat f = decide (seat = k) :=
        Bool.eq_iff_iff.mpr
          ((charges_iff_third apart isOpen meets nodup).trans decide_eq_true_iff.symm)
      rw [charged, charged, charged]
      cases k <;> rfl

/-! ## A list of fixtures -/

/-- **The three counts add up to the open meetings.** -/
theorem sum_countP_charges {fixtures : List Fixture}
    (apart : ∀ f ∈ fixtures, Apart config.teamOf f) :
    fixtures.countP (config.charges .first) + fixtures.countP (config.charges .second)
      + fixtures.countP (config.charges .third)
        = fixtures.countP fun f => f.isOpen && config.isMeeting f := by
  induction fixtures with
  | nil => rfl
  | cons f fs ih =>
    have hf := mark_charges (apart f List.mem_cons_self)
    have hfs := ih fun g hg => apart g (List.mem_cons_of_mem f hg)
    have h1 := countP_cons_mark (config.charges .first) f fs
    have h2 := countP_cons_mark (config.charges .second) f fs
    have h3 := countP_cons_mark (config.charges .third) f fs
    have h4 := countP_cons_mark (fun f => f.isOpen && config.isMeeting f) f fs
    omega

/-- **Every fixture between two of the teams is charged exactly once.** The projections of the three
parties, built from one list of fixtures whose teams can be told apart, count what they are charged
with: an open fixture between two of the teams is charged to the third party and to nobody else,
whichever of the two is at home; one that is finished, or involves fewer than two of the teams, is
charged to nobody; and so the three counts add up to the open fixtures between the teams. -/
theorem charged_once {fixtures : List Fixture} (short : fixtures.length < 2147483648)
    (apart : ∀ f ∈ fixtures, Apart config.teamOf f) {row : Seat → Standing}
    {latest : Seat → Fixture} {p : Seat → Projection}
    (built : ∀ seat, Projection.build config.rules (config.assignments.get seat) (row seat)
      (Snapshot.headToHead fixtures (config.assignments.get seat).opponents.1
        (config.assignments.get seat).opponents.2) (latest seat) = .ok (p seat)) :
    (∀ seat, (p seat).remainingHeadToHead.toInt = fixtures.countP (config.charges seat)) ∧
    (∀ f ∈ fixtures, f.status.hasFinished = false → ∀ i j, i ≠ j →
      f.homeTeam.answersTo (config.teamOf i) = true →
      f.awayTeam.answersTo (config.teamOf j) = true →
      ∃ k, k ≠ i ∧ k ≠ j ∧ ∀ seat, config.charges seat f = true ↔ seat = k) ∧
    (∀ f ∈ fixtures, f.status.hasFinished = true ∨ config.teamsIn f < 2 →
      ∀ seat, config.charges seat f = false) ∧
    (p .first).remainingHeadToHead.toInt + (p .second).remainingHeadToHead.toInt
        + (p .third).remainingHeadToHead.toInt
      = fixtures.countP fun f => !f.status.hasFinished && config.isMeeting f := by
  have counts (seat : Seat) :
      (p seat).remainingHeadToHead.toInt = fixtures.countP (config.charges seat) := by
    have hp := built seat
    -- the rivals that an assignment names are the pair whose fixtures are charged
    rw [config.assignments_get] at hp
    exact openBetween_eq short (Projection.exact_of_build hp) (.refl _)
  refine ⟨counts, ?_, ?_, ?_⟩
  · intro f hf unfinished i j ne home away
    have isOpen : f.isOpen = true := by rw [Fixture.isOpen, unfinished, Bool.not_false]
    obtain ⟨k, nodup⟩ := Seat.exists_third i j ne
    obtain ⟨_, hik, hjk⟩ := ne_of_distinct nodup
    exact ⟨k, hik.symm, hjk.symm, fun _ => charges_iff_third (apart f hf) isOpen ⟨home, away⟩ nodup⟩
  · rintro f - (finished | few) seat
    · exact charges_eq_false_of_not_open (by rw [Fixture.isOpen, finished, Bool.not_true])
    · refine charges_eq_false_of_not_meeting (Bool.eq_false_iff.mpr fun meeting => ?_)
      exact absurd (two_le_teamsIn meeting) (Nat.not_le.mpr few)
  · have total := sum_countP_charges apart
    rw [counts, counts, counts]
    exact_mod_cast total

/-- Liverpool and Chelsea meet twice, once to come; Tottenham has one match at Chelsea put off. -/
def meetings : List Fixture := [
  .onDay 1 "Liverpool" "Chelsea" .finished,
  .onDay 2 "Tottenham" "Everton" .timed,
  .onDay 3 "Chelsea" "Liverpool" .timed,
  .onDay 4 "Chelsea" "Tottenham" .postponed]

theorem charged_once_meetings :
    ∃ p : Seat → Projection,
      (p .third).remainingHeadToHead.toInt = 1 ∧ (p .first).remainingHeadToHead.toInt = 1 ∧
        (p .second).remainingHeadToHead.toInt = 0 ∧
        (p .first).remainingHeadToHead.toInt + (p .second).remainingHeadToHead.toInt
          + (p .third).remainingHeadToHead.toInt = 2 := by
  have builds : ∀ seat, ∃ p, Projection.build plain.rules (plain.assignments.get seat)
      (.ofGames (plain.teamOf seat) 20 30) (Snapshot.headToHead meetings
        (plain.assignments.get seat).opponents.1 (plain.assignments.get seat).opponents.2)
      (.onDay 1 "Liverpool" "Chelsea" .finished) = .ok p := fun _ => ⟨_, rfl⟩
  choose p built using builds
  have apart : ∀ f ∈ meetings, Apart plain.teamOf f := by decide +kernel
  obtain ⟨counts, _, _, total⟩ := charged_once (show meetings.length < 2147483648 by decide) apart
    built
  refine ⟨p, ?_, ?_, ?_, total.trans (by decide +kernel)⟩
  · exact (counts _).trans (by decide +kernel)
  · exact (counts _).trans (by decide +kernel)
  · exact (counts _).trans (by decide +kernel)

end Config

end LeagueWager
