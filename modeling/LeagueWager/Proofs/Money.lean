import LeagueWager.Settlement
import Mathlib.Algebra.BigOperators.Group.List.Basic
import Mathlib.Algebra.Ring.Int.Defs

/-!
# No money is made or lost

A row has an amount against each of the two rivals and a balance of both. They are three products of
their own, and each rival's row computes its side again, in a column that depends on the order of
the parties. As long as nothing overflows, all of them are differences of points times the stake:
what one party collects another pays, and detours through a third party change nothing.

* `Figures.of_row`: the figures of a row in exact numbers;
* `against_eq`: what two parties have between them;
* `money_conserved`: the law for all three rows.
-/

namespace LeagueWager

/-- The other two parties, in order. -/
def Seat.rivals : Seat → Seat × Seat
  | first => (second, third)
  | second => (first, third)
  | third => (first, second)

theorem Seat.eq_rival_of_ne : ∀ seat other : Seat, seat ≠ other →
    other = seat.rivals.1 ∨ other = seat.rivals.2 ∧ other ≠ seat.rivals.1 := by decide

/-- What a row has against one of the party's rivals: the label and the amount, from the first
column for the first of them and from the second for the second. -/
def SettlementRow.against (row : SettlementRow) (own other : Seat) : String × Int32 :=
  if other = own.rivals.1 then (row.oweA, row.amountA) else (row.oweB, row.amountB)

namespace Direction

/-- A label starts with the word for its direction, and with no other. -/
theorem startsWith_label_iff {direction other : Direction} {counterparty : String} :
    (direction.label counterparty).startsWith other.word = true ↔ direction = other := by
  have hlabel : (direction.label counterparty).toList
      = direction.word.toList ++ (' ' :: counterparty.toList) := by
    simp [label, toString]
  rw [String.startsWith_string_iff, hlabel]
  cases direction <;> cases other <;> simp [word]

theorem between_eq_pays_iff {own other : Int32} : between own other = pays ↔ own < other := by
  unfold between
  split <;> simp_all

theorem between_eq_collects_iff {own other : Int32} :
    between own other = collects ↔ other ≤ own := by
  unfold between
  split <;> simp_all [Int32.not_lt]

end Direction

namespace Settlement

open Checked

variable {rules : Rules}

/-- What a row holds, in exact numbers. -/
structure Figures (rules : Rules) (own a b : Projection) (row : SettlementRow) : Prop where
  points : row.points = own.currentPoints
  oweA : row.oweA = (Direction.between own.currentPoints a.currentPoints).label a.playerName
  amountA : row.amountA.toInt
    = (own.currentPoints.toInt - a.currentPoints.toInt) * rules.stakePerPoint.toInt
  oweB : row.oweB = (Direction.between own.currentPoints b.currentPoints).label b.playerName
  amountB : row.amountB.toInt
    = (own.currentPoints.toInt - b.currentPoints.toInt) * rules.stakePerPoint.toInt
  balanceAmount : row.balanceAmount.toInt
    = (2 * own.currentPoints.toInt - a.currentPoints.toInt - b.currentPoints.toInt)
      * rules.stakePerPoint.toInt

theorem owed_eq_ok {own other : Projection} {direction : Direction} {amount : Int32}
    (h : owed rules own other = .ok (direction, amount)) :
    direction = .between own.currentPoints other.currentPoints ∧ amount.toInt
      = (own.currentPoints.toInt - other.currentPoints.toInt) * rules.stakePerPoint.toInt := by
  unfold owed at h
  obtain ⟨gap, hgap, h⟩ := bind_eq_ok_iff.mp h
  obtain ⟨money, hmoney, h⟩ := bind_eq_ok_iff.mp h
  cases h
  rw [mul_eq_ok_iff.mp hmoney, sub_eq_ok_iff.mp hgap]
  exact ⟨rfl, rfl⟩

theorem toInt_netBalance {own a b : Projection} {net : Int32}
    (h : netBalance rules own a b = .ok net) : net.toInt
      = (2 * own.currentPoints.toInt - a.currentPoints.toInt - b.currentPoints.toInt)
        * rules.stakePerPoint.toInt := by
  unfold netBalance at h
  obtain ⟨overA, ha, h⟩ := bind_eq_ok_iff.mp h
  obtain ⟨twice, htwice, h⟩ := bind_eq_ok_iff.mp h
  obtain ⟨gap, hgap, h⟩ := bind_eq_ok_iff.mp h
  rw [mul_eq_ok_iff.mp h, sub_eq_ok_iff.mp hgap, add_eq_ok_iff.mp htwice, sub_eq_ok_iff.mp ha]
  congr 1
  omega

/-- **A row that is made holds the differences of points, at the stake.** -/
theorem Figures.of_row {own a b : Projection} {r : SettlementRow}
    (h : row rules own a b = .ok r) : Figures rules own a b r := by
  unfold row at h
  obtain ⟨⟨directionA, amountA⟩, owedA, h⟩ := bind_eq_ok_iff.mp h
  obtain ⟨⟨directionB, amountB⟩, owedB, h⟩ := bind_eq_ok_iff.mp h
  obtain ⟨_, _, h⟩ := bind_eq_ok_iff.mp h
  obtain ⟨_, _, h⟩ := bind_eq_ok_iff.mp h
  obtain ⟨net, hnet, h⟩ := bind_eq_ok_iff.mp h
  obtain ⟨rfl, hA⟩ := owed_eq_ok owedA
  obtain ⟨rfl, hB⟩ := owed_eq_ok owedB
  cases h
  exact ⟨rfl, rfl, hA, rfl, hB, toInt_netBalance hnet⟩

/-- Where two columns add up to a third, so do their sums. -/
theorem sum_pairs {rows : List SettlementRow}
    (h : ∀ r ∈ rows, r.balanceAmount.toInt = r.amountA.toInt + r.amountB.toInt) :
    (rows.flatMap fun r => [r.amountA.toInt, r.amountB.toInt]).sum
      = (rows.map fun r => r.balanceAmount.toInt).sum := by
  induction rows with
  | nil => rfl
  | cons r rs ih =>
    rw [List.flatMap_cons, List.sum_append, ih fun x hx => h x (List.mem_cons_of_mem r hx),
      List.map_cons, List.sum_cons, h r List.mem_cons_self]
    simp only [List.sum_cons, List.sum_nil, Int.add_zero]

/-- Each party has a row against its rivals, in their order. -/
def RowsOf (rules : Rules) (parties : Trio Projection) (rowOf : Seat → SettlementRow) : Prop :=
  ∀ seat, row rules (parties.get seat) (parties.get seat.rivals.1) (parties.get seat.rivals.2)
    = .ok (rowOf seat)

/-- A settlement ranks the three parties' rows. -/
theorem exists_rowsOf {parties : Trio Projection} {rows : List SettlementRow}
    (h : all rules parties = .ok rows) :
    ∃ rowOf, RowsOf rules parties rowOf ∧ rows = ranked (Seat.all.map rowOf) := by
  unfold all at h
  obtain ⟨first, hfirst, h⟩ := bind_eq_ok_iff.mp h
  obtain ⟨second, hsecond, h⟩ := bind_eq_ok_iff.mp h
  obtain ⟨third, hthird, h⟩ := bind_eq_ok_iff.mp h
  cases h
  refine ⟨(Trio.mk first second third).get, fun seat => ?_, rfl⟩
  cases seat with
  | first => exact hfirst
  | second => exact hsecond
  | third => exact hthird

section

variable {parties : Trio Projection} {rowOf : Seat → SettlementRow}
variable (h : RowsOf rules parties rowOf)

include h

/-- Where each party has a row, the settlement ranks the three. -/
theorem all_of_rowsOf : all rules parties = .ok (ranked (Seat.all.map rowOf)) := by
  have first : row rules parties.first parties.second parties.third = .ok (rowOf .first) := h .first
  have second : row rules parties.second parties.first parties.third = .ok (rowOf .second) :=
    h .second
  have third : row rules parties.third parties.first parties.second = .ok (rowOf .third) := h .third
  unfold all
  rw [first, second, third]
  rfl

/-- What two parties have between them, in the row of one of them. -/
theorem against_eq {seat other : Seat} (ne : seat ≠ other) :
    ((rowOf seat).against seat other).1
        = (Direction.between (rowOf seat).points (rowOf other).points).label
          (parties.get other).playerName ∧
      ((rowOf seat).against seat other).2.toInt
        = ((rowOf seat).points.toInt - (rowOf other).points.toInt) * rules.stakePerPoint.toInt := by
  have own := Figures.of_row (h seat)
  have points := (Figures.of_row (h other)).points
  rw [own.points, points]
  -- the columns of a row stand in the order of the rivals
  unfold SettlementRow.against
  rcases Seat.eq_rival_of_ne _ _ ne with rfl | ⟨rfl, notFirst⟩
  · rw [if_pos rfl]
    exact ⟨own.oweA, own.amountA⟩
  · rw [if_neg notFirst]
    exact ⟨own.oweB, own.amountB⟩

theorem amount_antisymm {seat other : Seat} (ne : seat ≠ other) :
    ((rowOf seat).against seat other).2.toInt = -((rowOf other).against other seat).2.toInt := by
  rw [(against_eq h ne).2, (against_eq h ne.symm).2, ← Int.neg_mul, Int.neg_sub]

/-- A detour through the third party comes to the same. -/
theorem amount_add_amount {i j k : Seat} (hij : i ≠ j) (hjk : j ≠ k) (hik : i ≠ k) :
    ((rowOf i).against i j).2.toInt + ((rowOf j).against j k).2.toInt
      = ((rowOf i).against i k).2.toInt := by
  rw [(against_eq h hij).2, (against_eq h hjk).2, (against_eq h hik).2, ← Int.add_mul]
  congr 1
  omega

theorem balanceAmount_eq (seat : Seat) :
    (rowOf seat).balanceAmount.toInt = (rowOf seat).amountA.toInt + (rowOf seat).amountB.toInt := by
  have own := Figures.of_row (h seat)
  rw [own.balanceAmount, own.amountA, own.amountB, ← Int.add_mul]
  congr 1
  omega

theorem sum_balanceAmount :
    ((Seat.all.map rowOf).map fun r => r.balanceAmount.toInt).sum = 0 := by
  have first := (Figures.of_row (h .first)).balanceAmount
  have second := (Figures.of_row (h .second)).balanceAmount
  have third := (Figures.of_row (h .third)).balanceAmount
  simp only [Seat.all, List.map_cons, List.map_nil, List.sum_cons, List.sum_nil]
  rw [first, second, third, ← Int.add_assoc, Int.add_zero, ← Int.add_mul, ← Int.add_mul]
  refine Int.mul_eq_zero.mpr (.inl ?_)
  simp only [Seat.rivals]
  omega

/-- At a positive stake, an amount below zero is a debt. -/
theorem amount_neg_iff (stake : 0 < rules.stakePerPoint) {seat other : Seat} (ne : seat ≠ other) :
    ((rowOf seat).against seat other).2.toInt < 0 ↔ (rowOf seat).points < (rowOf other).points := by
  have hstake : 0 < rules.stakePerPoint.toInt := Int32.lt_iff_toInt_lt.mp stake
  rw [(against_eq h ne).2, Int32.lt_iff_toInt_lt]
  constructor
  · intro neg
    refine Int.lt_of_not_ge fun behind => ?_
    have nonneg := Int.mul_nonneg (Int.sub_nonneg_of_le behind) (Int.le_of_lt hstake)
    omega
  · intro behind
    exact Int.mul_neg_of_neg_of_pos (Int.sub_neg_of_lt behind) hstake

theorem startsWith_against_iff {seat other : Seat} (ne : seat ≠ other) {direction : Direction} :
    ((rowOf seat).against seat other).1.startsWith direction.word = true ↔
      .between (rowOf seat).points (rowOf other).points = direction := by
  rw [(against_eq h ne).1, Direction.startsWith_label_iff]

theorem startsWith_to_iff {seat other : Seat} (ne : seat ≠ other) :
    ((rowOf seat).against seat other).1.startsWith "To" = true ↔
      (rowOf seat).points < (rowOf other).points :=
  (startsWith_against_iff h ne).trans Direction.between_eq_pays_iff

theorem startsWith_from_iff {seat other : Seat} (ne : seat ≠ other) :
    ((rowOf seat).against seat other).1.startsWith "From" = true ↔
      (rowOf other).points ≤ (rowOf seat).points :=
  (startsWith_against_iff h ne).trans Direction.between_eq_collects_iff

end

/-- **No money is made or lost.** A settlement that returns rows returns one for each party, with
the points that the party has. What a row has against a rival is what the rival's row has against
this party, with the other sign; two amounts in a chain add up to the third; the balance of a row is
the sum of its two amounts; and all balances, like all amounts, cancel out. At a positive stake a
debt is what is labelled as one, and of two parties one is labelled as a debtor, unless they are
level. -/
theorem money_conserved {parties : Trio Projection} {rows : List SettlementRow}
    (h : all rules parties = .ok rows) :
    ∃ rowOf : Seat → SettlementRow, RowsOf rules parties rowOf ∧ rows.Perm (Seat.all.map rowOf) ∧
      (∀ i, (rowOf i).points = (parties.get i).currentPoints) ∧
      (∀ i j, i ≠ j →
        ((rowOf i).against i j).2.toInt = -((rowOf j).against j i).2.toInt) ∧
      (∀ i j k, i ≠ j → j ≠ k → i ≠ k →
        ((rowOf i).against i j).2.toInt + ((rowOf j).against j k).2.toInt
          = ((rowOf i).against i k).2.toInt) ∧
      (∀ r ∈ rows, r.balanceAmount.toInt = r.amountA.toInt + r.amountB.toInt) ∧
      (rows.map fun r => r.balanceAmount.toInt).sum = 0 ∧
      (rows.flatMap fun r => [r.amountA.toInt, r.amountB.toInt]).sum = 0 ∧
      (0 < rules.stakePerPoint → ∀ i j, i ≠ j →
        (((rowOf i).against i j).2.toInt < 0 ↔
          ((rowOf i).against i j).1.startsWith "To" = true) ∧
        (0 ≤ ((rowOf i).against i j).2.toInt ↔
          ((rowOf i).against i j).1.startsWith "From" = true) ∧
        (((rowOf i).against i j).1.startsWith "From" = true ∧
            ((rowOf j).against j i).1.startsWith "From" = true ↔
          (rowOf i).points = (rowOf j).points) ∧
        ((rowOf i).points ≠ (rowOf j).points →
          (((rowOf i).against i j).1.startsWith "To" = true ↔
            ¬ ((rowOf j).against j i).1.startsWith "To" = true))) := by
  obtain ⟨rowOf, own, rfl⟩ := exists_rowsOf h
  -- the ranking only moves rows, so sums over them are those over the parties
  have perm := ranked_perm (Seat.all.map rowOf)
  have balance : ∀ r ∈ ranked (Seat.all.map rowOf),
      r.balanceAmount.toInt = r.amountA.toInt + r.amountB.toInt := by
    intro r hr
    obtain ⟨seat, _, rfl⟩ := List.mem_map.mp (perm.mem_iff.mp hr)
    exact balanceAmount_eq own seat
  have balances : ((ranked (Seat.all.map rowOf)).map fun r => r.balanceAmount.toInt).sum = 0 := by
    rw [(perm.map _).sum_eq, sum_balanceAmount own]
  refine ⟨rowOf, own, perm, fun i => (Figures.of_row (own i)).points,
    fun i j => amount_antisymm own, fun i j k => amount_add_amount own, balance, balances, ?_, ?_⟩
  · rw [← balances]
    exact sum_pairs fun r hr => balance r hr
  · intro stake i j ne
    rw [← Int.not_lt, amount_neg_iff own stake ne, startsWith_to_iff own ne,
      startsWith_from_iff own ne, startsWith_to_iff own ne.symm, startsWith_from_iff own ne.symm]
    refine ⟨Iff.rfl, Int32.not_lt, ?_, fun apart => ?_⟩
    · constructor
      · exact fun both => Int32.le_antisymm both.2 both.1
      · exact fun level => ⟨Int32.le_of_eq level.symm, Int32.le_of_eq level⟩
    · rw [Int32.not_lt]
      exact ⟨Int32.le_of_lt, fun le => Int32.lt_of_le_of_ne le apart⟩

/-- Three parties, two of them level. -/
def levelBehind : Trio Projection := ⟨
  ⟨"Liverpool", "Steve", 61, 60, 20, 19, 1, some ⟨"LIV", "EVE", 0, 0⟩⟩,
  ⟨"Chelsea", "Tim", 33, 33, 20, 18, 2, none⟩,
  ⟨"Tottenham", "Thommo", 33, 33, 21, 17, 1, none⟩⟩

theorem money_conserved_levelBehind :
    ∃ rows, all .standard levelBehind = .ok rows ∧
      (rows.map fun r => r.balanceAmount.toInt).sum = 0 ∧
      (rows.flatMap fun r => [r.amountA.toInt, r.amountB.toInt]).sum = 0 := by
  have returns : (all .standard levelBehind).toOption.isSome = true := by decide +kernel
  cases h : all .standard levelBehind with
  | error cause =>
    rw [h] at returns
    cases returns
  | ok rows =>
    obtain ⟨_, _, _, _, _, _, _, balances, amounts, _⟩ := money_conserved h
    exact ⟨rows, rfl, balances, amounts⟩

end Settlement

end LeagueWager
