import LeagueWager.Proofs.Figures
import LeagueWager.Proofs.Swing
import LeagueWager.Snapshot
import Mathlib.Order.Bounds.Defs

/-!
# The best and the worst case are the extremes of the season

The formulas of the settlement know three numbers of each party: its points without a running
match, how many fixtures it has left, and how many the rivals have left between them. A season has
exponentially many ways to go on. If table and fixtures tell the same story, the formulas find the
largest and the smallest of what the wager can come to.

* `keptPoints_eq`, `openFixtures_eq`, `openBetween_eq`: the three numbers, read off a table that
  agrees with the fixtures;
* `extremes_of_season`: the theorem.
-/

namespace LeagueWager.Season

/-- The fixtures of a season in which three teams, each under its name, play to the end. -/
structure Tracked (rules : Rules) (name : Seat → String) (fixtures : List Fixture) : Prop where
  /-- They can be counted in 32 bits. -/
  short : fixtures.length < 2147483648
  /-- No team is taken for another. -/
  apart : ∀ f ∈ fixtures, Apart name f
  /-- Each of the three plays as many as the rules say. -/
  whole : ∀ s, (fixtures.countP (·.involves (name s)) : Int) = rules.seasonLength.toInt
  /-- Each of them plays one match at a time. -/
  oneLive : ∀ s, fixtures.countP (fun f => f.status.isLive && f.involves (name s)) ≤ 1

/-- What is known of a team in the middle of the season is what the fixtures say. -/
structure Known (team : String) (fixtures : List Fixture) (row : Standing) (latest : Fixture) :
    Prop where
  /-- The table counts the finished fixtures and the live one. -/
  playedGames : row.playedGames.toInt = fixtures.countP fun f => f.isCounted && f.involves team
  points : row.points.toInt = tablePoints team fixtures
  mem : latest ∈ fixtures
  involves : latest.involves team = true
  /-- The latest fixture is the live one, if there is one. -/
  live : ∀ f ∈ fixtures, f.involves team = true → f.status.isLive = true → latest = f

/-- What the wager can come to for `own` against `a` and `b`. -/
def outcomes (rules : Rules) (own a b : String) (fixtures : List Fixture) : Set Int :=
  {money | ∃ endings, Completes fixtures endings ∧ worth rules own a b fixtures endings = money}

section

variable {team : String} {fixtures : List Fixture} {row : Standing} {latest : Fixture}

/-- A live match is the latest fixture, and there is one if that is live. -/
theorem countP_live (known : Known team fixtures row latest)
    (one : fixtures.countP (fun f => f.status.isLive && f.involves team) ≤ 1) :
    (fixtures.countP fun f => f.status.isLive && f.involves team)
      = if latest.status.isLive then 1 else 0 := by
  split
  · rename_i hlive
    have hpos : 0 < fixtures.countP fun f => f.status.isLive && f.involves team :=
      List.countP_pos_iff.mpr ⟨latest, known.mem, by rw [hlive, known.involves]; rfl⟩
    omega
  · rename_i hlive
    refine List.countP_eq_zero.mpr fun f hf hboth => ?_
    obtain ⟨hl, hi⟩ := Bool.and_eq_true_iff.mp hboth
    exact hlive (known.live f hf hi hl ▸ hl)

/-- Where only marked fixtures count, each as much as the others, the sum is a count. -/
theorem sum_map_eq_mul {g : Fixture → Int} {p : Fixture → Bool} {c : Int}
    (h : ∀ f ∈ fixtures, g f = c * mark (p f)) : (fixtures.map g).sum = c * fixtures.countP p := by
  induction fixtures with
  | nil => exact (Int.mul_zero c).symm
  | cons f fs ih =>
      rw [List.map_cons, List.sum_cons, h f List.mem_cons_self,
        ih fun g hg => h g (List.mem_cons_of_mem f hg), countP_cons_mark, Int.mul_add]

/-- The points of the live match are those that a projection backs out. -/
theorem sum_running (known : Known team fixtures row latest)
    (one : fixtures.countP (fun f => f.status.isLive && f.involves team) ≤ 1) :
    (fixtures.map (running team)).sum = Projection.provisional team latest := by
  have hmarked : ∀ f ∈ fixtures, running team f
      = latest.ending.pointsFor latest team * mark (f.status.isLive && f.involves team) := by
    intro f hf
    cases hl : f.status.isLive with
    | false => rw [running, hl, Bool.false_and]; exact (Int.mul_zero _).symm
    | true =>
        rw [running, if_pos hl, Bool.true_and]
        cases hi : f.involves team with
        | false =>
            have hle := pointsFor_le f.ending f team
            have hnonneg := pointsFor_nonneg f.ending f team
            rw [hi] at hle
            show _ = _ * 0
            change _ ≤ 3 * 0 at hle
            omega
        | true => rw [known.live f hf hi hl]; exact (Int.mul_one _).symm
  rw [sum_map_eq_mul hmarked, countP_live known one, Projection.provisional,
    Fixture.toInt_pointsFor]
  split
  · exact Int.mul_one _
  · exact Int.mul_zero _

theorem tablePoints_eq (team : String) (fixtures : List Fixture) :
    tablePoints team fixtures
      = keptPoints team fixtures + (fixtures.map (running team)).sum := by
  unfold tablePoints keptPoints
  induction fixtures with
  | nil => rfl
  | cons f fs ih =>
      have hf : (if f.isCounted then f.ending.pointsFor f team else 0)
          = kept team f + running team f := by
        unfold Fixture.isCounted kept running
        cases hs : f.status <;> simp [FixtureStatus.hasFinished, FixtureStatus.isLive]
      rw [List.map_cons, List.sum_cons, hf, ih]
      simp only [List.map_cons, List.sum_cons]
      omega

/-- Open and counted fixtures are all, but a live match is both. -/
theorem openFixtures_add_counted (team : String) (fixtures : List Fixture) :
    openFixtures team fixtures + fixtures.countP (fun f => f.isCounted && f.involves team)
      = fixtures.countP (·.involves team)
        + fixtures.countP fun f => f.status.isLive && f.involves team := by
  unfold openFixtures
  induction fixtures with
  | nil => rfl
  | cons f fs ih =>
      have hf : mark (f.isOpen && f.involves team) + mark (f.isCounted && f.involves team)
          = mark (f.involves team) + mark (f.status.isLive && f.involves team) := by
        unfold Fixture.isOpen Fixture.isCounted
        cases f.status <;> cases f.involves team <;> rfl
      have h1 := countP_cons_mark (fun f => f.isOpen && f.involves team) f fs
      have h2 := countP_cons_mark (fun f => f.isCounted && f.involves team) f fs
      have h3 := countP_cons_mark (·.involves team) f fs
      have h4 := countP_cons_mark (fun f => f.status.isLive && f.involves team) f fs
      omega

/-! ## What a projection knows -/

variable {rules : Rules} {assignment : Assignment} {headToHead : List Fixture} {p : Projection}

/-- **The adjusted points of a projection are those that the team keeps.** -/
theorem keptPoints_eq (exact : Projection.Exact rules assignment row headToHead latest p)
    (known : Known assignment.team fixtures row latest)
    (one : fixtures.countP (fun f => f.status.isLive && f.involves assignment.team) ≤ 1) :
    p.adjustedPoints.toInt = keptPoints assignment.team fixtures := by
  rw [exact.adjustedPoints, known.points, tablePoints_eq, sum_running known one]
  omega

/-- **The remaining matches of a projection are the open fixtures of its team.** -/
theorem openFixtures_eq (exact : Projection.Exact rules assignment row headToHead latest p)
    (known : Known assignment.team fixtures row latest)
    (one : fixtures.countP (fun f => f.status.isLive && f.involves assignment.team) ≤ 1)
    (whole : (fixtures.countP (·.involves assignment.team) : Int) = rules.seasonLength.toInt) :
    p.remainingMatches.toInt = openFixtures assignment.team fixtures := by
  have hcount := openFixtures_add_counted assignment.team fixtures
  have hle : fixtures.countP (fun f => f.isCounted && f.involves assignment.team)
      ≤ fixtures.countP (·.involves assignment.team) :=
    List.countP_mono_left fun f _ h => (Bool.and_eq_true_iff.mp h).2
  rw [countP_live known one] at hcount
  rw [exact.remainingMatches, known.playedGames, ← whole]
  split at hcount <;> rename_i hlive
  · rw [if_pos hlive]; omega
  · rw [if_neg hlive]; omega

/-- **The count of a projection's head-to-head matches is that of the open ones.** -/
theorem openBetween_eq {a b : String} (short : fixtures.length < 2147483648)
    (exact : Projection.Exact rules assignment row headToHead latest p)
    (rivals : headToHead.Perm (Snapshot.headToHead fixtures a b)) :
    p.remainingHeadToHead.toInt = openBetween a b fixtures := by
  have hcount : Projection.unfinished headToHead = openBetween a b fixtures := by
    rw [Projection.unfinished, rivals.countP_eq, Snapshot.headToHead, List.countP_filter]
    rfl
  have hle : openBetween a b fixtures ≤ fixtures.length := List.countP_le_length
  rw [exact.remainingHeadToHead, hcount, Int32.toInt_ofNat_of_lt (by omega)]

end

/-! ## The extremes -/

section

variable {rules : Rules} {name : Seat → String} {fixtures : List Fixture} {own a b : Seat}

/-- **The most that the wager can come to.** -/
theorem isGreatest_outcomes (stake : 0 < rules.stakePerPoint.toInt)
    (apart : ∀ f ∈ fixtures, Apart name f) (distinct : [own, a, b].Nodup) :
    IsGreatest (outcomes rules (name own) (name a) (name b) fixtures)
      ((2 * keptPoints (name own) fixtures - keptPoints (name a) fixtures
        - keptPoints (name b) fixtures + 6 * openFixtures (name own) fixtures
        - 2 * openBetween (name a) (name b) fixtures) * rules.stakePerPoint.toInt) := by
  rw [← sum_swing_hope apart distinct]
  constructor
  · refine ⟨fixtures.map (hope (name own) (name a) (name b)),
      completes_map (canEnd_hope _ _ _) fixtures, ?_⟩
    rw [worth_eq, total_map]
  · rintro money ⟨endings, hc, rfl⟩
    rw [worth_eq, ← total_const hc]
    exact Int.mul_le_mul_of_nonneg_right
      (total_le_total hc fun f hf e he => swing_le_hope (apart f hf) distinct he)
      (Int.le_of_lt stake)

/-- **The least that the wager can come to.** -/
theorem isLeast_outcomes (stake : 0 < rules.stakePerPoint.toInt)
    (apart : ∀ f ∈ fixtures, Apart name f) (distinct : [own, a, b].Nodup) :
    IsLeast (outcomes rules (name own) (name a) (name b) fixtures)
      ((2 * keptPoints (name own) fixtures - keptPoints (name a) fixtures
        - keptPoints (name b) fixtures + 3 * openBetween (name a) (name b) fixtures
        - 3 * openFixtures (name a) fixtures - 3 * openFixtures (name b) fixtures)
        * rules.stakePerPoint.toInt) := by
  rw [← sum_swing_fear apart distinct]
  constructor
  · refine ⟨fixtures.map (fear (name own) (name a) (name b)),
      completes_map (canEnd_fear _ _ _) fixtures, ?_⟩
    rw [worth_eq, total_map]
  · rintro money ⟨endings, hc, rfl⟩
    rw [worth_eq, ← total_const hc]
    exact Int.mul_le_mul_of_nonneg_right
      (total_le_total hc fun f hf e he => swing_fear_le (apart f hf) distinct he)
      (Int.le_of_lt stake)

end

/--
**Best and worst case are the extremes of the season.**

Table rows, latest fixtures and the fixtures between rivals are those of one season. Then what the
formulas make of them is the most and the least that the wager can come to, whichever way every
fixture ends that is not finished.
-/
theorem extremes_of_season {rules : Rules} {parties : Trio Assignment} {fixtures : List Fixture}
    {row : Seat → Standing} {headToHead : Seat → List Fixture} {latest : Seat → Fixture}
    {projection : Seat → Projection} (stake : 0 < rules.stakePerPoint)
    (tracked : Tracked rules (fun s => (parties.get s).team) fixtures)
    (known : ∀ s, Known (parties.get s).team fixtures (row s) (latest s))
    (rivals : ∀ own a b : Seat, [own, a, b].Nodup → (headToHead own).Perm
      (Snapshot.headToHead fixtures (parties.get a).team (parties.get b).team))
    (built : ∀ s, Projection.build rules (parties.get s) (row s) (headToHead s) (latest s)
      = .ok (projection s))
    {own a b : Seat} (distinct : [own, a, b].Nodup) :
    (∀ best, Settlement.bestCase rules (projection own) (projection a) (projection b) = .ok best →
        IsGreatest (outcomes rules (parties.get own).team (parties.get a).team
          (parties.get b).team fixtures) best.toInt)
      ∧ ∀ worst,
        Settlement.worstCase rules (projection own) (projection a) (projection b) = .ok worst →
        IsLeast (outcomes rules (parties.get own).team (parties.get a).team
          (parties.get b).team fixtures) worst.toInt := by
  have hstake : 0 < rules.stakePerPoint.toInt := Int32.lt_iff_toInt_lt.mp stake
  have hexact := fun s => Projection.exact_of_build (built s)
  have hkept := fun s => keptPoints_eq (hexact s) (known s) (tracked.oneLive s)
  have hopen := fun s =>
    openFixtures_eq (hexact s) (known s) (tracked.oneLive s) (tracked.whole s)
  have hbetween := openBetween_eq tracked.short (hexact own) (rivals own a b distinct)
  constructor
  · intro best h
    have hmost := isGreatest_outcomes hstake tracked.apart distinct
    rw [Settlement.toInt_bestCase h, hkept, hkept, hkept, hopen, hbetween]
    exact hmost
  · intro worst h
    have hleast := isLeast_outcomes hstake tracked.apart distinct
    rw [Settlement.toInt_worstCase h, hkept, hkept, hkept, hopen, hopen, hbetween]
    exact hleast

/-! ## A small season -/

/-- A meeting of two teams. -/
def meeting (home away : String) (status : FixtureStatus) (homeGoals awayGoals : UInt32) :
    Fixture where
  id := 0
  kickOff := ⟨0, 0⟩
  status := status
  matchday := none
  homeTeam := ⟨0, home, home, ""⟩
  awayTeam := ⟨0, away, away, ""⟩
  score := ⟨⟨some homeGoals, some awayGoals⟩, .unknown⟩

/-- Three parties' teams meet once each and play an outsider; two of them are playing now. -/
def smallSeason : List Fixture := [
  meeting "Chelsea" "Wolverhampton" .inPlay 1 0,
  meeting "Wolverhampton" "Liverpool" .timed 0 0,
  meeting "Chelsea" "Liverpool" .postponed 0 0,
  meeting "Everton" "Chelsea" .finished 2 2,
  meeting "Liverpool" "Everton" .finished 0 3,
  meeting "Everton" "Wolverhampton" .scheduled 0 0]

/-- Three fixtures each, at five a point. -/
def smallRules : Rules := ⟨3, 5⟩

def smallParties : Trio Assignment := ⟨⟨"Chelsea", "Tim", "Wolves", "Liverpool"⟩,
  ⟨"Wolves", "Thommo", "Chelsea", "Liverpool"⟩, ⟨"Liverpool", "Steve", "Chelsea", "Wolves"⟩⟩

/-- A row of the table, of which only games and points matter. -/
def smallRow (team : String) (playedGames points : Int32) : Standing :=
  ⟨1, ⟨0, team, team, ""⟩, playedGames, 0, 0, 0, points, 0, 0, 0⟩

def smallRows : Trio Standing :=
  ⟨smallRow "Chelsea" 2 4, smallRow "Wolverhampton" 1 0, smallRow "Liverpool" 1 0⟩

def smallLatest : Trio Fixture := ⟨meeting "Chelsea" "Wolverhampton" .inPlay 1 0,
  meeting "Chelsea" "Wolverhampton" .inPlay 1 0, meeting "Liverpool" "Everton" .finished 0 3⟩

def smallProjections : Trio Projection := ⟨
  ⟨"Chelsea", "Tim", 4, 1, 2, 2, 1, some ⟨"", "", 1, 0⟩⟩,
  ⟨"Wolves", "Thommo", 0, 0, 1, 3, 1, some ⟨"", "", 1, 0⟩⟩,
  ⟨"Liverpool", "Steve", 0, 0, 1, 2, 1, none⟩⟩

def smallRivals (seat : Seat) : List Fixture :=
  Snapshot.headToHead smallSeason (smallParties.get seat).opponents.1
    (smallParties.get seat).opponents.2

/-- Chelsea can still gain sixty and lose fifty. -/
theorem extremes_of_smallSeason :
    IsGreatest (outcomes smallRules "Chelsea" "Wolves" "Liverpool" smallSeason) 60
      ∧ IsLeast (outcomes smallRules "Chelsea" "Wolves" "Liverpool" smallSeason) (-50) := by
  have tracked : Tracked smallRules (fun s => (smallParties.get s).team) smallSeason :=
    ⟨by decide, by decide, by decide, by decide⟩
  have known : ∀ s, Known (smallParties.get s).team smallSeason (smallRows.get s)
      (smallLatest.get s) := by
    intro s
    cases s <;> exact ⟨by decide, by decide, by decide, by decide, by decide⟩
  have rivals : ∀ own a b : Seat, [own, a, b].Nodup → (smallRivals own).Perm
      (Snapshot.headToHead smallSeason (smallParties.get a).team (smallParties.get b).team) := by
    decide
  have built : ∀ s, Projection.build smallRules (smallParties.get s) (smallRows.get s)
      (smallRivals s) (smallLatest.get s) = .ok (smallProjections.get s) := by
    intro s
    cases s <;> rfl
  have h := extremes_of_season (by decide) tracked known rivals built
    (show [Seat.first, .second, .third].Nodup by decide)
  exact ⟨h.1 60 rfl, h.2 (-50) rfl⟩

end LeagueWager.Season
