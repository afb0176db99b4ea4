import LeagueWager.Text.Digits

/-!
# Decimal digits

A number is written as its decimal digits, and read as far as there are digits. Both the written
records and the written dates come down to this.

* `takeWhile_isDigit`: digits are read up to what follows them;
* `ofDigits_lt`: so many digits denote less than that power of ten;
* `head?_toDigits_ne`: no number but zero is written with a zero in front.
-/

namespace LeagueWager.Text

/-- No digit comes first. -/
def NoDigit (rest : List Char) : Prop := ∀ c, rest.head? = some c → c.isDigit = false

theorem noDigit_nil : NoDigit [] := by
  intro c h
  cases h

theorem noDigit_cons {c : Char} (h : c.isDigit = false) (rest : List Char) :
    NoDigit (c :: rest) := by
  intro d hd
  cases hd
  exact h

theorem takeWhile_isDigit {ds rest : List Char} (digits : ∀ c ∈ ds, c.isDigit = true)
    (h : NoDigit rest) : (ds ++ rest).takeWhile Char.isDigit = ds := by
  rw [List.takeWhile_append_of_pos digits]
  cases rest with
  | nil => simp
  | cons c rest => simp [h c rfl]

theorem dropWhile_isDigit {ds rest : List Char} (digits : ∀ c ∈ ds, c.isDigit = true)
    (h : NoDigit rest) : (ds ++ rest).dropWhile Char.isDigit = rest := by
  rw [List.dropWhile_append_of_pos digits]
  cases rest with
  | nil => rfl
  | cons c rest => simp [h c rfl]

/-- What a digit is worth. -/
theorem hexValue?_of_isDigit {c : Char} (h : c.isDigit = true) :
    hexValue? c = some (c.toNat - 48) :=
  if_pos h

theorem ofDigits_eq {ds : List Char} (digits : ∀ c ∈ ds, c.isDigit = true) :
    ofDigits 10 ds = Nat.ofDigitChars 10 ds 0 := by
  have all (n : Nat) : ds.foldl (fun n d => n * 10 + (hexValue? d).getD 0) n
      = Nat.ofDigitChars 10 ds n := by
    induction ds generalizing n with
    | nil => rfl
    | cons d ds ih =>
      rw [List.foldl_cons, Nat.ofDigitChars_cons,
        hexValue?_of_isDigit (digits d List.mem_cons_self),
        ih fun c hc => digits c (List.mem_cons_of_mem d hc), Nat.mul_comm]
      rfl
  exact all 0

/-- Digits denote less than the power of ten of their number. -/
theorem ofDigitChars_lt {ds : List Char} (digits : ∀ c ∈ ds, c.isDigit = true) (n : Nat) :
    Nat.ofDigitChars 10 ds n < (n + 1) * Nat.pow 10 ds.length := by
  induction ds generalizing n with
  | nil => exact Nat.lt_of_lt_of_eq (Nat.lt_succ_self n) (Nat.mul_one _).symm
  | cons d ds ih =>
    have next := ih (fun c hc => digits c (List.mem_cons_of_mem d hc))
      (10 * n + (d.toNat - '0'.toNat))
    have digit := digits d List.mem_cons_self
    simp only [Char.isDigit, Bool.and_eq_true, decide_eq_true_eq] at digit
    have high : d.toNat ≤ 57 := digit.2
    rw [Nat.ofDigitChars_cons]
    calc _ < _ := next
      _ ≤ (n + 1) * 10 * Nat.pow 10 ds.length := Nat.mul_le_mul_right _ (by
          have : '0'.toNat = 48 := rfl
          omega)
      _ = (n + 1) * Nat.pow 10 (d :: ds).length := by
          rw [List.length_cons]
          show _ = _ * (Nat.pow 10 ds.length * 10)
          rw [Nat.mul_assoc, Nat.mul_comm 10]

theorem ofDigits_lt {ds : List Char} (digits : ∀ c ∈ ds, c.isDigit = true) :
    ofDigits 10 ds < Nat.pow 10 ds.length := by
  rw [ofDigits_eq digits]
  simpa using ofDigitChars_lt digits 0

theorem isDigit_toDigits (n : Nat) : ∀ c ∈ Nat.toDigits 10 n, c.isDigit = true :=
  fun _ => Nat.isDigit_of_mem_toDigits (by decide) (by decide)

/-- A number that is not zero has a first digit that is not zero. -/
theorem head?_toDigits_ne {n : Nat} (h : n ≠ 0) : (Nat.toDigits 10 n).head? ≠ some '0' := by
  induction n using Nat.strongRecOn with
  | ind n ih =>
    by_cases small : n < 10
    · rw [Nat.toDigits_of_lt_base small]
      simp [Nat.digitChar_eq_zero, h]
    · -- the first digit is that of the tenth part
      have shorter := ih (n / 10) (by omega) (by omega)
      rw [Nat.toDigits_of_base_le (by decide) (by omega), List.head?_append]
      cases hd : (Nat.toDigits 10 (n / 10)).head? with
      | none => exact absurd (List.head?_eq_none_iff.mp hd) Nat.toDigits_ne_nil
      | some c =>
        rw [hd] at shorter
        simpa using shorter

end LeagueWager.Text
