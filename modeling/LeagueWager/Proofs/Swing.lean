import LeagueWager.Season

/-!
# What a party hopes for and what it fears

A wager of one party against two rivals moves with every fixture that one of them plays in. What
the party hopes for in a fixture depends on the sides of that fixture alone: it hopes to win its
own, that its rivals lose theirs, and that they draw where they meet, which costs one point each
instead of three to one of them. It fears to lose its own, and that its rivals win theirs; where
they meet, either may win.

* `swing_le_hope`, `swing_fear_le`: no ending is better than what is hoped for, and none worse than
  what is feared;
* `sum_swing_hope`, `sum_swing_fear`: both over a whole season, by three counts.
-/

namespace LeagueWager.Season

/-! ## One fixture -/

/-- The names tell the sides of the fixture apart: no side answers to two of them, and no name to
both sides. -/
structure Apart (name : Seat → String) (fixture : Fixture) : Prop where
  home : ∀ s t, fixture.homeTeam.answersTo (name s) = true →
    fixture.homeTeam.answersTo (name t) = true → s = t
  away : ∀ s t, fixture.awayTeam.answersTo (name s) = true →
    fixture.awayTeam.answersTo (name t) = true → s = t
  sides : ∀ s, fixture.homeTeam.answersTo (name s) = true →
    fixture.awayTeam.answersTo (name s) = false

instance (name : Seat → String) (fixture : Fixture) : Decidable (Apart name fixture) :=
  decidable_of_iff
    ((∀ s t, fixture.homeTeam.answersTo (name s) = true →
        fixture.homeTeam.answersTo (name t) = true → s = t)
      ∧ (∀ s t, fixture.awayTeam.answersTo (name s) = true →
        fixture.awayTeam.answersTo (name t) = true → s = t)
      ∧ ∀ s, fixture.homeTeam.answersTo (name s) = true →
        fixture.awayTeam.answersTo (name s) = false)
    ⟨fun h => ⟨h.1, h.2.1, h.2.2⟩, fun h => ⟨h.home, h.away, h.sides⟩⟩

/-- One if it holds, else nothing. -/
def mark (holds : Bool) : Int := if holds then 1 else 0

/-- What `own` hopes for: the rivals draw where they meet; else its own side wins, or the side
that is no rival. -/
def hope (own a b : String) (fixture : Fixture) : Ending :=
  if fixture.status.hasFinished then fixture.ending
  else if fixture.isBetween a b then .draw
  else if fixture.homeTeam.answersTo own || fixture.awayTeam.answersTo a
      || fixture.awayTeam.answersTo b then .homeWin
  else .awayWin

/-- What `own` fears: its own side loses, and a rival wins. -/
def fear (own a b : String) (fixture : Fixture) : Ending :=
  if fixture.status.hasFinished then fixture.ending
  else if fixture.awayTeam.answersTo own || fixture.homeTeam.answersTo a
      || fixture.homeTeam.answersTo b then .homeWin
  else .awayWin

theorem canEnd_hope (own a b : String) (fixture : Fixture) :
    CanEnd fixture (hope own a b fixture) := by
  intro h
  rw [hope, if_pos h]

theorem canEnd_fear (own a b : String) (fixture : Fixture) :
    CanEnd fixture (fear own a b fixture) := by
  intro h
  rw [fear, if_pos h]

section

variable {name : Seat → String} {fixture : Fixture} {own a b : Seat}

theorem ne_of_distinct (distinct : [own, a, b].Nodup) : own ≠ a ∧ own ≠ b ∧ a ≠ b := by
  simpa [and_assoc] using distinct

theorem pointsFor_nonneg (e : Ending) (fixture : Fixture) (team : String) :
    0 ≤ e.pointsFor fixture team := by
  unfold Ending.pointsFor
  split
  · cases e <;> decide
  · split
    · cases e <;> decide
    · exact Int.le_refl 0

/-- A team takes three points at most, and none where it does not play. -/
theorem pointsFor_le (e : Ending) (fixture : Fixture) (team : String) :
    e.pointsFor fixture team ≤ 3 * mark (fixture.involves team) := by
  unfold Ending.pointsFor Fixture.involves mark
  cases fixture.homeTeam.answersTo team <;> cases fixture.awayTeam.answersTo team <;>
    cases e <;> decide

/-- Two teams that meet share two points or three. -/
theorem rivals_share (apart : Apart name fixture) (hab : a ≠ b)
    (h : fixture.isBetween (name a) (name b) = true) (e : Ending) :
    2 ≤ e.pointsFor fixture (name a) + e.pointsFor fixture (name b)
      ∧ e.pointsFor fixture (name a) + e.pointsFor fixture (name b) ≤ 3 := by
  have hhome := apart.home a b
  have ha := apart.sides a
  have hb := apart.sides b
  have hsum : e.pointsFor fixture (name a) + e.pointsFor fixture (name b)
      = e.homePoints + e.awayPoints := by
    grind [Ending.pointsFor, Fixture.isBetween]
  rw [hsum]
  cases e <;> decide

/-- Where the rivals meet, `own` does not play. -/
theorem not_involves_of_rivals (apart : Apart name fixture) (hoa : own ≠ a) (hob : own ≠ b)
    (h : fixture.isBetween (name a) (name b) = true) :
    fixture.involves (name own) = false := by
  have h1 := apart.home own a
  have h2 := apart.home own b
  have h3 := apart.away own a
  have h4 := apart.away own b
  grind [Fixture.involves, Fixture.isBetween]

/-- **No ending of a fixture gains `own` more** than six points where it plays, or loses it less
than two where the rivals meet. -/
theorem swing_le (apart : Apart name fixture) (distinct : [own, a, b].Nodup) (e : Ending) :
    swing (name own) (name a) (name b) fixture e
      ≤ 6 * mark (fixture.involves (name own))
        - 2 * mark (fixture.isBetween (name a) (name b)) := by
  obtain ⟨hoa, hob, hab⟩ := ne_of_distinct distinct
  have hown := pointsFor_le e fixture (name own)
  have ha := pointsFor_nonneg e fixture (name a)
  have hb := pointsFor_nonneg e fixture (name b)
  unfold swing
  cases h : fixture.isBetween (name a) (name b) with
  | false =>
      show _ ≤ 6 * mark (fixture.involves (name own)) - 2 * 0
      omega
  | true =>
      have hshare := rivals_share apart hab h e
      rw [not_involves_of_rivals apart hoa hob h] at hown ⊢
      change _ ≤ 3 * 0 at hown
      show _ ≤ 6 * 0 - 2 * 1
      omega

/-- **No ending of a fixture loses `own` more** than three points to a rival that plays; where the
rivals meet, one of them alone takes three. -/
theorem le_swing (apart : Apart name fixture) (distinct : [own, a, b].Nodup) (e : Ending) :
    3 * mark (fixture.isBetween (name a) (name b))
        - 3 * mark (fixture.involves (name a)) - 3 * mark (fixture.involves (name b))
      ≤ swing (name own) (name a) (name b) fixture e := by
  obtain ⟨hoa, hob, hab⟩ := ne_of_distinct distinct
  have hown := pointsFor_nonneg e fixture (name own)
  have ha := pointsFor_le e fixture (name a)
  have hb := pointsFor_le e fixture (name b)
  unfold swing
  cases h : fixture.isBetween (name a) (name b) with
  | false =>
      show 3 * 0 - _ - _ ≤ _
      omega
  | true =>
      have hshare := rivals_share apart hab h e
      have hinv : fixture.involves (name a) = true ∧ fixture.involves (name b) = true := by
        grind [Fixture.involves, Fixture.isBetween]
      rw [hinv.1, hinv.2]
      show 3 * 1 - 3 * 1 - 3 * 1 ≤ _
      omega

/-- What `own` hopes for gains it all that it can gain. -/
theorem swing_hope (apart : Apart name fixture) (distinct : [own, a, b].Nodup)
    (unfinished : fixture.status.hasFinished = false) :
    swing (name own) (name a) (name b) fixture (hope (name own) (name a) (name b) fixture)
      = 6 * mark (fixture.involves (name own))
        - 2 * mark (fixture.isBetween (name a) (name b)) := by
  obtain ⟨hoa, hob, hab⟩ := ne_of_distinct distinct
  have hhome := fun s t => apart.home s t
  have haway := fun s t => apart.away s t
  have hsides := fun s => apart.sides s
  unfold hope
  grind [swing, mark, Fixture.involves, Fixture.isBetween, Ending.pointsFor, Ending.homePoints,
    Ending.awayPoints]

/-- What `own` fears loses it all that it can lose. -/
theorem swing_fear (apart : Apart name fixture) (distinct : [own, a, b].Nodup)
    (unfinished : fixture.status.hasFinished = false) :
    swing (name own) (name a) (name b) fixture (fear (name own) (name a) (name b) fixture)
      = 3 * mark (fixture.isBetween (name a) (name b))
        - 3 * mark (fixture.involves (name a)) - 3 * mark (fixture.involves (name b)) := by
  obtain ⟨hoa, hob, hab⟩ := ne_of_distinct distinct
  have hhome := fun s t => apart.home s t
  have haway := fun s t => apart.away s t
  have hsides := fun s => apart.sides s
  unfold fear
  grind [swing, mark, Fixture.involves, Fixture.isBetween, Ending.pointsFor, Ending.homePoints,
    Ending.awayPoints]

/-- **In each fixture what `own` hopes for is the best that can happen.** -/
theorem swing_le_hope (apart : Apart name fixture) (distinct : [own, a, b].Nodup) {e : Ending}
    (he : CanEnd fixture e) :
    swing (name own) (name a) (name b) fixture e
      ≤ swing (name own) (name a) (name b) fixture
          (hope (name own) (name a) (name b) fixture) := by
  cases hs : fixture.status.hasFinished with
  | true =>
      have same : e = hope (name own) (name a) (name b) fixture := by rw [hope, if_pos hs, he hs]
      exact Int.le_of_eq (congrArg _ same)
  | false =>
      rw [swing_hope apart distinct hs]
      exact swing_le apart distinct e

/-- **In each fixture what `own` fears is the worst that can happen.** -/
theorem swing_fear_le (apart : Apart name fixture) (distinct : [own, a, b].Nodup) {e : Ending}
    (he : CanEnd fixture e) :
    swing (name own) (name a) (name b) fixture (fear (name own) (name a) (name b) fixture)
      ≤ swing (name own) (name a) (name b) fixture e := by
  cases hs : fixture.status.hasFinished with
  | true =>
      have same : fear (name own) (name a) (name b) fixture = e := by rw [fear, if_pos hs, he hs]
      exact Int.le_of_eq (congrArg _ same)
  | false =>
      rw [swing_fear apart distinct hs]
      exact le_swing apart distinct e

end

/-! ## Sums over the fixtures -/

/-- The points of a finished fixture, which stay whatever comes. -/
def kept (team : String) (fixture : Fixture) : Int :=
  if fixture.status.hasFinished then fixture.ending.pointsFor fixture team else 0

/-- The points of a live fixture as it stands. -/
def running (team : String) (fixture : Fixture) : Int :=
  if fixture.status.isLive then fixture.ending.pointsFor fixture team else 0

/-- The points that a team keeps, whatever comes. -/
def keptPoints (team : String) (fixtures : List Fixture) : Int := (fixtures.map (kept team)).sum

/-- The points that the table shows: those of finished fixtures, and of a live one as it stands. -/
def tablePoints (team : String) (fixtures : List Fixture) : Int :=
  (fixtures.map fun f => if f.isCounted then f.ending.pointsFor f team else 0).sum

/-- How many fixtures a team has still to complete. -/
def openFixtures (team : String) (fixtures : List Fixture) : Nat :=
  fixtures.countP fun f => f.isOpen && f.involves team

/-- How many fixtures two teams have still to complete against each other. -/
def openBetween (a b : String) (fixtures : List Fixture) : Nat :=
  fixtures.countP fun f => f.isOpen && f.isBetween a b

theorem countP_cons_mark (p : Fixture → Bool) (f : Fixture) (fs : List Fixture) :
    ((f :: fs).countP p : Int) = mark (p f) + fs.countP p := by
  rw [List.countP_cons, mark]
  split <;> omega

section

variable {name : Seat → String} {fixtures : List Fixture} {own a b : Seat}

/-- The most that a season can still bring `own`. -/
theorem sum_swing_hope (apart : ∀ f ∈ fixtures, Apart name f) (distinct : [own, a, b].Nodup) :
    (fixtures.map fun f =>
        swing (name own) (name a) (name b) f (hope (name own) (name a) (name b) f)).sum
      = 2 * keptPoints (name own) fixtures - keptPoints (name a) fixtures
        - keptPoints (name b) fixtures + 6 * openFixtures (name own) fixtures
        - 2 * openBetween (name a) (name b) fixtures := by
  unfold keptPoints openFixtures openBetween
  induction fixtures with
  | nil => rfl
  | cons f fs ih =>
      have hf := apart f List.mem_cons_self
      rw [List.map_cons, List.sum_cons, ih fun g hg => apart g (List.mem_cons_of_mem f hg),
        countP_cons_mark, countP_cons_mark]
      simp only [List.map_cons, List.sum_cons, kept, Fixture.isOpen]
      cases hs : f.status.hasFinished with
      | true =>
          rw [hope, if_pos hs, swing]
          show _ = _ + 6 * (0 + _) - 2 * (0 + _)
          simp only [if_true]
          omega
      | false =>
          rw [swing_hope hf distinct hs]
          simp only [Bool.not_false, Bool.true_and, Bool.false_eq_true, if_false]
          omega

/-- The least that a season can still leave `own`. -/
theorem sum_swing_fear (apart : ∀ f ∈ fixtures, Apart name f) (distinct : [own, a, b].Nodup) :
    (fixtures.map fun f =>
        swing (name own) (name a) (name b) f (fear (name own) (name a) (name b) f)).sum
      = 2 * keptPoints (name own) fixtures - keptPoints (name a) fixtures
        - keptPoints (name b) fixtures + 3 * openBetween (name a) (name b) fixtures
        - 3 * openFixtures (name a) fixtures - 3 * openFixtures (name b) fixtures := by
  unfold keptPoints openFixtures openBetween
  induction fixtures with
  | nil => rfl
  | cons f fs ih =>
      have hf := apart f List.mem_cons_self
      rw [List.map_cons, List.sum_cons, ih fun g hg => apart g (List.mem_cons_of_mem f hg),
        countP_cons_mark, countP_cons_mark, countP_cons_mark]
      simp only [List.map_cons, List.sum_cons, kept, Fixture.isOpen]
      cases hs : f.status.hasFinished with
      | true =>
          rw [fear, if_pos hs, swing]
          show _ = _ + 3 * (0 + _) - 3 * (0 + _) - 3 * (0 + _)
          simp only [if_true]
          omega
      | false =>
          rw [swing_fear hf distinct hs]
          simp only [Bool.not_false, Bool.true_and, Bool.false_eq_true, if_false]
          omega

end

end LeagueWager.Season
