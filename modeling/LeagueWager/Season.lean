import Mathlib.Algebra.Ring.Int.Defs
import LeagueWager.Fixture
import LeagueWager.Wager

/-!
# The rest of a season

A fixture that is finished keeps its ending. Every other one, a live match among them, may still be
won by either side or be drawn. An ending for each fixture of a season, finished ones as they are,
is one way in which the season can go on; it settles what every team has in the end, and so what
the wager comes to.

* `Fixture.toInt_pointsFor`: the points of a running score are those of the ending it stands for;
* `total_le_total`: what holds of each fixture holds of the season.
-/

namespace LeagueWager

/-- How a fixture ends. -/
inductive Ending where
  | homeWin
  | draw
  | awayWin
  deriving DecidableEq, Repr

namespace Ending

/-- League points of the home side. -/
def homePoints : Ending → Int
  | homeWin => 3
  | draw => 1
  | awayWin => 0

/-- League points of the away side. -/
def awayPoints : Ending → Int
  | homeWin => 0
  | draw => 1
  | awayWin => 3

/-- The points that the named team takes from a fixture that ends so, if it plays in it. -/
def pointsFor (ending : Ending) (fixture : Fixture) (team : String) : Int :=
  if fixture.homeTeam.answersTo team then ending.homePoints
  else if fixture.awayTeam.answersTo team then ending.awayPoints
  else 0

end Ending

namespace Fixture

/-- The ending that the full-time score stands for. -/
def ending (fixture : Fixture) : Ending :=
  if fixture.awayGoals < fixture.homeGoals then .homeWin
  else if fixture.homeGoals = fixture.awayGoals then .draw
  else .awayWin

/-- The table counts the fixture: it is finished, or being played. -/
def isCounted (fixture : Fixture) : Bool := fixture.status.hasFinished || fixture.status.isLive

/-- The fixture is still to be completed. -/
def isOpen (fixture : Fixture) : Bool := !fixture.status.hasFinished

theorem toInt_pointsOf_home (fixture : Fixture) :
    (pointsOf fixture.homeGoals fixture.awayGoals).toInt = fixture.ending.homePoints := by
  unfold pointsOf ending
  split
  · rfl
  · split <;> rfl

theorem toInt_pointsOf_away (fixture : Fixture) :
    (pointsOf fixture.awayGoals fixture.homeGoals).toInt = fixture.ending.awayPoints := by
  unfold pointsOf ending
  rcases Nat.lt_trichotomy fixture.awayGoals.toNat fixture.homeGoals.toNat with h | h | h
  · have hlt : fixture.awayGoals < fixture.homeGoals := UInt32.lt_iff_toNat_lt.mpr h
    rw [if_neg (UInt32.lt_asymm hlt), if_neg (UInt32.ne_of_lt hlt), if_pos hlt]
    rfl
  · rw [UInt32.toNat_inj.mp h, if_neg (UInt32.lt_irrefl _), if_neg (UInt32.lt_irrefl _),
      if_pos rfl, if_pos rfl]
    rfl
  · have hlt : fixture.homeGoals < fixture.awayGoals := UInt32.lt_iff_toNat_lt.mpr h
    rw [if_pos hlt, if_neg (UInt32.lt_asymm hlt), if_neg (UInt32.ne_of_lt hlt)]
    rfl

theorem toInt_pointsFor (fixture : Fixture) (team : String) :
    (fixture.pointsFor team).toInt = fixture.ending.pointsFor fixture team := by
  unfold pointsFor Ending.pointsFor
  split
  · exact toInt_pointsOf_home fixture
  · split
    · exact toInt_pointsOf_away fixture
    · rfl

end Fixture

namespace Season

/-- The fixture can still end so. -/
def CanEnd (fixture : Fixture) (ending : Ending) : Prop :=
  fixture.status.hasFinished = true → ending = fixture.ending

/-- The season can go on to these endings, one for each fixture. -/
def Completes : List Fixture → List Ending → Prop
  | [], [] => True
  | fixture :: fixtures, ending :: endings => CanEnd fixture ending ∧ Completes fixtures endings
  | _, _ => False

/-- The sum of a value over all fixtures and their endings. -/
def total (value : Fixture → Ending → Int) : List Fixture → List Ending → Int
  | fixture :: fixtures, ending :: endings => value fixture ending + total value fixtures endings
  | _, _ => 0

/-- The points of a team at the end of the season. -/
def finalPoints (team : String) (fixtures : List Fixture) (endings : List Ending) : Int :=
  total (fun fixture ending => ending.pointsFor fixture team) fixtures endings

/-- What the wager is worth to `own` against `a` and `b` at the end of the season. -/
def worth (rules : Rules) (own a b : String) (fixtures : List Fixture) (endings : List Ending) :
    Int :=
  ((finalPoints own fixtures endings - finalPoints a fixtures endings)
    + (finalPoints own fixtures endings - finalPoints b fixtures endings))
    * rules.stakePerPoint.toInt

/-- The points by which one fixture moves `own` away from both rivals together. -/
def swing (own a b : String) (fixture : Fixture) (ending : Ending) : Int :=
  2 * ending.pointsFor fixture own - ending.pointsFor fixture a - ending.pointsFor fixture b

theorem total_swing (own a b : String) (fixtures : List Fixture) (endings : List Ending) :
    total (swing own a b) fixtures endings = 2 * finalPoints own fixtures endings
      - finalPoints a fixtures endings - finalPoints b fixtures endings := by
  unfold finalPoints
  induction fixtures generalizing endings with
  | nil => rfl
  | cons f fs ih =>
      cases endings with
      | nil => rfl
      | cons e es =>
          simp only [total, ih es, swing]
          omega

theorem worth_eq (rules : Rules) (own a b : String) (fixtures : List Fixture)
    (endings : List Ending) :
    worth rules own a b fixtures endings
      = total (swing own a b) fixtures endings * rules.stakePerPoint.toInt := by
  rw [total_swing, worth]
  congr 1
  omega

/-- **What holds of each fixture holds of the season.** -/
theorem total_le_total {v w : Fixture → Ending → Int} {fixtures : List Fixture}
    {endings : List Ending} (hc : Completes fixtures endings)
    (h : ∀ f ∈ fixtures, ∀ e, CanEnd f e → v f e ≤ w f e) :
    total v fixtures endings ≤ total w fixtures endings := by
  induction fixtures generalizing endings with
  | nil =>
      cases endings with
      | nil => exact Int.le_refl 0
      | cons e es => exact hc.elim
  | cons f fs ih =>
      cases endings with
      | nil => exact hc.elim
      | cons e es =>
          have hhead := h f List.mem_cons_self e hc.1
          have htail := ih hc.2 fun g hg => h g (List.mem_cons_of_mem f hg)
          simp only [total]
          omega

/-- A value that no ending changes is summed over the fixtures. -/
theorem total_const {g : Fixture → Int} {fixtures : List Fixture} {endings : List Ending}
    (hc : Completes fixtures endings) :
    total (fun f _ => g f) fixtures endings = (fixtures.map g).sum := by
  induction fixtures generalizing endings with
  | nil =>
      cases endings with
      | nil => rfl
      | cons e es => exact hc.elim
  | cons f fs ih =>
      cases endings with
      | nil => exact hc.elim
      | cons e es => simp only [total, ih hc.2, List.map_cons, List.sum_cons]

/-- Endings that are chosen for each fixture on its own. -/
theorem total_map (value : Fixture → Ending → Int) (choice : Fixture → Ending)
    (fixtures : List Fixture) :
    total value fixtures (fixtures.map choice)
      = (fixtures.map fun f => value f (choice f)).sum := by
  induction fixtures with
  | nil => rfl
  | cons f fs ih => simp only [List.map_cons, total, ih, List.sum_cons]

theorem completes_map {choice : Fixture → Ending} (h : ∀ f, CanEnd f (choice f))
    (fixtures : List Fixture) : Completes fixtures (fixtures.map choice) := by
  induction fixtures with
  | nil => trivial
  | cons f fs ih => exact ⟨h f, ih⟩

end Season

end LeagueWager
