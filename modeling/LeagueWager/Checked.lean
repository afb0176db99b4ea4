/-!
# Checked arithmetic on 32 bits

Points, games and money are signed numbers of 32 bits. An operation whose exact result does not
fit has no value: it fails, and the failure names the operation.

* `fit_eq_ok_iff`: a result is returned exactly if it is the exact number;
* `bind_eq_ok_iff`: a computation has a value exactly if each of its operations has one.
-/

namespace LeagueWager

/-- The operation whose exact result does not fit 32 bits. -/
inductive Overflow where
  | add
  | subtract
  | multiply
  deriving DecidableEq, Repr

/-- What is reported of an overflow. -/
def Overflow.message : Overflow → String
  | .add => "attempt to add with overflow"
  | .subtract => "attempt to subtract with overflow"
  | .multiply => "attempt to multiply with overflow"

namespace Checked

/-- The whole numbers of 32 bits with sign. -/
def InRange (n : Int) : Prop := -2147483648 ≤ n ∧ n ≤ 2147483647

instance (n : Int) : Decidable (InRange n) := inferInstanceAs (Decidable (_ ∧ _))

/-- The exact result `n`, if it fits. -/
def fit (cause : Overflow) (n : Int) : Except Overflow Int32 :=
  if InRange n then .ok (Int32.ofInt n) else .error cause

/-- Sum. -/
def add (a b : Int32) : Except Overflow Int32 := fit .add (a.toInt + b.toInt)

/-- Difference. -/
def sub (a b : Int32) : Except Overflow Int32 := fit .subtract (a.toInt - b.toInt)

/-- Product. -/
def mul (a b : Int32) : Except Overflow Int32 := fit .multiply (a.toInt * b.toInt)

theorem toInt_ofInt {n : Int} (h : InRange n) : (Int32.ofInt n).toInt = n :=
  Int32.toInt_ofInt_of_le h.1 (Int.lt_of_le_of_lt h.2 (by decide))

theorem inRange_toInt (a : Int32) : InRange a.toInt :=
  ⟨Int32.le_toInt a, Int.le_of_lt_add_one (Int32.toInt_lt a)⟩

theorem fit_eq_ok_iff {cause : Overflow} {n : Int} {c : Int32} :
    fit cause n = .ok c ↔ c.toInt = n := by
  unfold fit
  constructor
  · intro h
    split at h
    · rename_i hn
      cases h
      exact toInt_ofInt hn
    · cases h
  · intro h
    subst h
    rw [if_pos (inRange_toInt c), Int32.ofInt_toInt]

theorem add_eq_ok_iff {a b c : Int32} : add a b = .ok c ↔ c.toInt = a.toInt + b.toInt :=
  fit_eq_ok_iff

theorem sub_eq_ok_iff {a b c : Int32} : sub a b = .ok c ↔ c.toInt = a.toInt - b.toInt :=
  fit_eq_ok_iff

theorem mul_eq_ok_iff {a b c : Int32} : mul a b = .ok c ↔ c.toInt = a.toInt * b.toInt :=
  fit_eq_ok_iff

theorem bind_eq_ok_iff {α β : Type} {x : Except Overflow α} {f : α → Except Overflow β} {b : β} :
    (x >>= f) = .ok b ↔ ∃ a, x = .ok a ∧ f a = .ok b := by
  cases x <;> simp [bind, Except.bind]

theorem toInt_max (a b : Int32) : (max a b).toInt = max a.toInt b.toInt := by
  show (if a ≤ b then b else a).toInt = max a.toInt b.toInt
  split <;> rename_i h <;> rw [Int32.le_iff_toInt_le] at h <;> omega

end Checked

end LeagueWager
