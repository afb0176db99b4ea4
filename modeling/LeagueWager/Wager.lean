/-!
# The wager

Three players hold a team each. For every point between two of the teams, the player behind owes
the other a fixed stake.
-/

namespace LeagueWager

/-- The figures that the wager is settled by. -/
structure Rules where
  /-- Fixtures of a team in a season. -/
  seasonLength : Int32
  /-- Money for each point of difference. -/
  stakePerPoint : Int32
  deriving DecidableEq, Repr

/-- Twenty teams that meet twice, at five a point. -/
def Rules.standard : Rules := ⟨38, 5⟩

/-- One party to the wager: a player, the team held, and the two rival teams. -/
structure Assignment where
  team : String
  player : String
  opponents : String × String
  deriving DecidableEq, Repr

/-- Three things, one for each party, in the order of the parties. -/
structure Trio (α : Type) where
  first : α
  second : α
  third : α
  deriving DecidableEq, Repr

/-- The three parties. -/
inductive Seat where
  | first
  | second
  | third
  deriving DecidableEq, Repr

/-- Every party, in order. -/
def Seat.all : List Seat := [first, second, third]

theorem Seat.mem_all (seat : Seat) : seat ∈ all := by cases seat <;> decide

instance Seat.decidableForall (p : Seat → Prop) [DecidablePred p] : Decidable (∀ seat, p seat) :=
  decidable_of_iff (p .first ∧ p .second ∧ p .third)
    ⟨fun h seat => by cases seat <;> simp [h], fun h => ⟨h _, h _, h _⟩⟩

namespace Trio

/-- What belongs to one party. -/
def get {α : Type} (trio : Trio α) : Seat → α
  | .first => trio.first
  | .second => trio.second
  | .third => trio.third

/-- The three as a list. -/
def toList {α : Type} (trio : Trio α) : List α := [trio.first, trio.second, trio.third]

/-- The three, each replaced. -/
def map {α β : Type} (f : α → β) (trio : Trio α) : Trio β :=
  ⟨f trio.first, f trio.second, f trio.third⟩

end Trio

/-- Which way money moves between two players. -/
inductive Direction where
  /-- The player is behind and pays. -/
  | pays
  /-- The player is level or ahead and collects. -/
  | collects
  deriving DecidableEq, Repr

namespace Direction

/-- The direction for a player with `own` points against `other`. -/
def between (own other : Int32) : Direction := if own < other then pays else collects

/-- The word for a direction. -/
def word : Direction → String
  | pays => "To"
  | collects => "From"

/-- The direction and the player at the other end. -/
def label (direction : Direction) (counterparty : String) : String :=
  s!"{direction.word} {counterparty}"

end Direction

end LeagueWager
