import LeagueWager.Date.Reader
import LeagueWager.Date.Writer
import LeagueWager.Proofs.Calendar
import LeagueWager.Proofs.Digits

/-!
# A written instant is read as itself

The instants that a text can name are those of the years that a date may have, with less than a
second of nanoseconds, or of a leap second, which only follows the last second of a minute. Each of
them is written in a form that is read as the instant itself.

* `Reader.number_append`: digits are read up to what follows them, or up to the width;
* `Reader.parts_written`: the parts of a written instant;
* `ofText_toText`: from an instant to its text and back;
* `isDate_of_ofText`: no text names another instant.
-/

namespace LeagueWager

/-- A step that has a value, and what goes on from it. -/
theorem exists_of_bind {ε α β : Type} {x : Except ε α} {f : α → Except ε β} {b : β}
    (h : x.bind f = .ok b) : ∃ a, x = .ok a ∧ f a = .ok b := by
  cases x with
  | error e => cases h
  | ok a => exact ⟨a, rfl, h⟩

theorem bind_eq_ok_iff {ε α β : Type} {x : Except ε α} {f : α → Except ε β} {b : β} :
    x.bind f = .ok b ↔ ∃ a, x = .ok a ∧ f a = .ok b := by
  refine ⟨exists_of_bind, ?_⟩
  rintro ⟨a, rfl, h⟩
  exact h

namespace Instant

/-- The instant is one that a date can name. -/
structure IsDate (t : Instant) : Prop where
  first : Calendar.dayNumber Calendar.firstYear 1 1 * 86400 ≤ t.second
  last : t.second ≤ Calendar.dayNumber Calendar.lastYear 12 31 * 86400 + 86399
  nano : t.nano < 2000000000
  /-- A leap second follows second 59. -/
  leap : 1000000000 ≤ t.nano → t.second % 60 = 59

/-! ## Padded numbers -/

theorem padded_eq (w n : Nat) : padded w n =
    List.replicate (w - (Nat.toDigits 10 n).length) '0' ++ Nat.toDigits 10 n := by
  unfold padded
  rw [Nat.toString_eq_repr, Nat.toList_repr]

theorem isDigit_padded (w n : Nat) : ∀ c ∈ padded w n, c.isDigit = true := by
  intro c hc
  rw [padded_eq, List.mem_append] at hc
  rcases hc with hc | hc
  · rw [List.eq_of_mem_replicate hc]
    rfl
  · exact Text.isDigit_toDigits n c hc

theorem ofDigitChars_replicate (k : Nat) (ds : List Char) :
    Nat.ofDigitChars 10 (List.replicate k '0' ++ ds) 0 = Nat.ofDigitChars 10 ds 0 := by
  induction k with
  | zero => rfl
  | succ k ih =>
    rw [List.replicate_succ, List.cons_append, Nat.ofDigitChars_cons]
    exact ih

theorem ofDigits_padded (w n : Nat) : Text.ofDigits 10 (padded w n) = n := by
  rw [Text.ofDigits_eq (isDigit_padded w n), padded_eq, ofDigitChars_replicate,
    Nat.ofDigitChars_ten_toDigits]

theorem length_padded {w n : Nat} (h : (Nat.toDigits 10 n).length ≤ w) :
    (padded w n).length = w := by
  rw [padded_eq, List.length_append, List.length_replicate]
  omega

theorem padded_eq_cons (w n : Nat) : ∃ c cs, padded w n = c :: cs ∧ c.isDigit = true := by
  cases h : padded w n with
  | nil =>
    rw [padded_eq, List.append_eq_nil_iff] at h
    exact absurd h.2 Nat.toDigits_ne_nil
  | cons c cs => exact ⟨c, cs, rfl, isDigit_padded w n c (h ▸ List.mem_cons_self)⟩

namespace Reader

open Text

/-- No digit is a blank. -/
theorem isBlank_of_isDigit {c : Char} (h : c.isDigit = true) : isBlank c = false := by
  simp only [Char.isDigit, Bool.and_eq_true, decide_eq_true_eq] at h
  have low : 48 ≤ c.toNat := h.1
  have high : c.toNat ≤ 57 := h.2
  simp [isBlank]
  omega

theorem dropBlanks_cons {c : Char} (h : isBlank c = false) (rest : List Char) :
    dropBlanks (c :: rest) = c :: rest := by
  unfold dropBlanks
  rw [List.dropWhile_cons_of_neg (by simp [h])]

theorem dropBlanks_padded (w n : Nat) (rest : List Char) :
    dropBlanks (padded w n ++ rest) = padded w n ++ rest := by
  obtain ⟨c, cs, form, digit⟩ := padded_eq_cons w n
  rw [form, List.cons_append, dropBlanks_cons (isBlank_of_isDigit digit)]

theorem separator_cons {c : Char} (h : isBlank c = false) (rest : List Char) :
    separator c (c :: rest) = .ok rest := by
  unfold separator
  rw [dropBlanks_cons h]
  exact if_pos rfl

/-- Digits are read up to what follows them, if they fill the width or no digit follows. -/
theorem number_append {w : Nat} {ds rest : List Char} (digits : ∀ c ∈ ds, c.isDigit = true)
    (some : ds ≠ []) (h : ds.length = w ∨ ds.length ≤ w ∧ NoDigit rest) :
    number (.some w) (ds ++ rest) = .ok (ofDigits 10 ds, rest) := by
  have candidates : ((ds ++ rest).take w).takeWhile Char.isDigit = ds := by
    rcases h with full | ⟨fits, ends⟩
    · rw [← full, List.take_left]
      simpa using takeWhile_isDigit digits noDigit_nil
    · -- what the width has room for behind the digits starts with none
      rw [List.take_append, List.take_of_length_le fits]
      refine takeWhile_isDigit digits fun c hc => ?_
      cases hw : w - ds.length with
      | zero => simp [hw] at hc
      | succ k =>
        cases rest with
        | nil => simp at hc
        | cons d rest =>
          rw [hw] at hc
          exact ends c hc
  obtain ⟨d, ds, rfl⟩ := List.exists_cons_of_ne_nil some
  unfold number
  dsimp only
  rw [candidates, List.cons_append]
  show Except.ok (_, (d :: (ds ++ rest)).drop (d :: ds).length) = _
  rw [← List.cons_append, List.drop_left]

/-- A padded number is read where the width is its own, or where no digit follows. -/
theorem number_padded {w v n : Nat} (fits : (Nat.toDigits 10 n).length ≤ v) (rest : List Char)
    (h : v = w ∨ v ≤ w ∧ NoDigit rest) : number (some w) (padded v n ++ rest) = .ok (n, rest) := by
  have length := length_padded fits
  obtain ⟨c, cs, form, -⟩ := padded_eq_cons v n
  rw [number_append (isDigit_padded v n) (by simp [form]) (by rw [length]; exact h),
    ofDigits_padded]

theorem length_toDigits_of_lt {n : Nat} (h : n < 100) : (Nat.toDigits 10 n).length ≤ 2 :=
  (Nat.length_toDigits_le_iff (by decide) (by decide)).mpr h

theorem twoDigits_padded {least most n : Nat} (h : least ≤ n ∧ n ≤ most) (small : n < 100)
    (rest : List Char) : twoDigits least most (padded 2 n ++ rest) = .ok (n, rest) := by
  unfold twoDigits
  rw [dropBlanks_padded, number_padded (length_toDigits_of_lt small) rest (.inl rfl)]
  exact if_pos h

theorem number_none {ds rest : List Char} (digits : ∀ c ∈ ds, c.isDigit = true) (some : ds ≠ [])
    (ends : NoDigit rest) : number none (ds ++ rest) = .ok (ofDigits 10 ds, rest) := by
  have all := takeWhile_isDigit digits ends
  obtain ⟨d, ds, rfl⟩ := List.exists_cons_of_ne_nil some
  unfold number
  dsimp only
  rw [all, List.cons_append]
  show Except.ok (_, (d :: (ds ++ rest)).drop (d :: ds).length) = _
  rw [← List.cons_append, List.drop_left]

theorem year_minus {cs rest : List Char} {n : Nat} (h : number none cs = .ok (n, rest))
    (fits : n ≤ 2147483648) : year ('-' :: cs) = .ok (-(n : Int), rest) := by
  unfold year
  rw [dropBlanks_cons (by decide)]
  show Except.bind (Except.map (fun p => (-(p.1 : Int), p.2)) (number none cs)) _ = _
  rw [h]
  exact if_pos (by dsimp only; omega)

theorem year_plus {cs rest : List Char} {n : Nat} (h : number none cs = .ok (n, rest))
    (fits : n ≤ 2147483647) : year ('+' :: cs) = .ok ((n : Int), rest) := by
  unfold year
  rw [dropBlanks_cons (by decide)]
  show Except.bind (Except.map (fun p => ((p.1 : Int), p.2)) (number none cs)) _ = _
  rw [h]
  exact if_pos (by dsimp only; omega)

theorem year_digit {c : Char} (digit : c.isDigit = true) {cs rest : List Char} {n : Nat}
    (h : number (some 4) (c :: cs) = .ok (n, rest)) (fits : n ≤ 2147483647) :
    year (c :: cs) = .ok ((n : Int), rest) := by
  unfold year
  rw [dropBlanks_cons (isBlank_of_isDigit digit)]
  split
  · rename_i sign
    cases sign
    cases digit
  · rename_i sign
    cases sign
    cases digit
  · rw [h]
    exact if_pos (by dsimp only; omega)

theorem year_yearText {y : Int} (low : -2147483648 ≤ y) (high : y ≤ 2147483647) {rest : List Char}
    (ends : NoDigit rest) : year (yearText y ++ rest) = .ok (y, rest) := by
  obtain ⟨c, cs, form, digit⟩ := padded_eq_cons 4 y.natAbs
  have signed := number_none (isDigit_padded 4 y.natAbs) (by simp [form]) ends
  rw [ofDigits_padded] at signed
  unfold yearText
  split
  · -- four digits without a sign, and exactly four are read
    have same : y.toNat = y.natAbs := by omega
    have fits : (Nat.toDigits 10 y.natAbs).length ≤ 4 :=
      (Nat.length_toDigits_le_iff (by decide) (by decide)).mpr (by omega)
    have plain := number_padded fits rest (.inl rfl)
    rw [same]
    rw [form, List.cons_append] at plain ⊢
    rw [year_digit digit plain (by omega)]
    congr 2
    omega
  · split
    · rw [List.cons_append, year_minus signed (by omega)]
      congr 2
      omega
    · rw [List.cons_append, year_plus signed (by omega)]
      congr 2
      omega

/-- The nanoseconds that digits behind a point stand for. -/
theorem fraction_point {w n : Nat} (fits : (Nat.toDigits 10 n).length ≤ w) (short : w ≤ 9)
    {rest : List Char} (ends : NoDigit rest) :
    fraction ('.' :: (padded w n ++ rest)) = .ok (n * Nat.pow 10 (9 - w), rest) := by
  unfold fraction
  show Except.bind (number (some 9) (padded w n ++ rest)) _ = _
  rw [number_padded fits rest (.inr ⟨short, ends⟩)]
  dsimp only [Except.bind]
  have used : (padded w n ++ rest).length - rest.length = w := by
    rw [List.length_append, length_padded fits, Nat.add_sub_cancel]
  have plain : ([] ++ rest).dropWhile Char.isDigit = rest := dropWhile_isDigit (by simp) ends
  rw [used]
  rw [List.nil_append] at plain
  rw [plain]

theorem fraction_fractionText {n : Nat} (h : n < 1000000000) :
    fraction (fractionText n ++ ['Z']) = .ok (n, ['Z']) := by
  have ends : NoDigit ['Z'] := noDigit_cons rfl []
  have fits {w k : Nat} (pos : 0 < w) (hk : k < Nat.pow 10 w) :
      (Nat.toDigits 10 k).length ≤ w :=
    (Nat.length_toDigits_le_iff (by decide) pos).mpr hk
  unfold fractionText
  split
  · rename_i zero
    rw [zero]
    rfl
  · split
    · rw [List.cons_append, fraction_point (fits (by decide) (by show _ < 1000; omega)) (by decide)
        ends]
      congr 2
      show n / 1000000 * 1000000 = n
      omega
    · split
      · rw [List.cons_append, fraction_point (fits (by decide) (by show _ < 1000000; omega))
          (by decide) ends]
        congr 2
        show n / 1000 * 1000 = n
        omega
      · rw [List.cons_append, fraction_point (fits (by decide) (by show _ < 1000000000; omega))
          (by decide) ends]
        congr 2
        show n * 1 = n
        omega

theorem parts_written {year : Int} {month day hour minute second nano : Nat}
    (low : -2147483648 ≤ year) (high : year ≤ 2147483647) (months : 1 ≤ month ∧ month ≤ 12)
    (days : 1 ≤ day ∧ day ≤ 31) (hours : hour ≤ 23) (minutes : minute ≤ 59)
    (seconds : second ≤ 60) (nanos : nano < 1000000000) :
    parts (yearText year ++ '-' :: (padded 2 month ++ '-' :: (padded 2 day ++
      'T' :: (padded 2 hour ++ ':' :: (padded 2 minute ++ ':' :: (padded 2 second ++
        (fractionText nano ++ ['Z']))))))) =
      .ok ⟨year, month, day, hour, minute, second, nano, 0⟩ := by
  unfold parts
  rw [year_yearText low high (noDigit_cons rfl _)]
  dsimp only [bind, Except.bind]
  rw [separator_cons (by decide)]
  dsimp only
  rw [twoDigits_padded months (by omega)]
  dsimp only
  rw [separator_cons (by decide)]
  dsimp only
  rw [twoDigits_padded days (by omega)]
  dsimp only
  rw [if_pos (by decide), twoDigits_padded ⟨Nat.zero_le _, hours⟩ (by omega)]
  dsimp only
  rw [separator_cons (by decide)]
  dsimp only
  rw [twoDigits_padded ⟨Nat.zero_le _, minutes⟩ (by omega)]
  dsimp only
  rw [separator_cons (by decide)]
  dsimp only
  rw [twoDigits_padded ⟨Nat.zero_le _, seconds⟩ (by omega)]
  dsimp only
  rw [fraction_fractionText nanos]
  rfl

end Reader

theorem IsDate.isDay {t : Instant} (h : t.IsDate) :
    Calendar.isDay (Calendar.dayOfNumber (t.second / 86400)).year
      (Calendar.dayOfNumber (t.second / 86400)).month
      (Calendar.dayOfNumber (t.second / 86400)).day = true := by
  have first := h.first
  have last := h.last
  exact Calendar.isDay_dayOfNumber (by omega) (by omega)

theorem isDay_iff {year : Int} {month day : Nat} : Calendar.isDay year month day = true ↔
    (Calendar.firstYear ≤ year ∧ year ≤ Calendar.lastYear) ∧ (1 ≤ month ∧ month ≤ 12) ∧
      1 ≤ day ∧ day ≤ Calendar.daysInMonth year month := by
  simp [Calendar.isDay, and_assoc]

theorem daysInMonth_le (year : Int) (month : Nat) : Calendar.daysInMonth year month ≤ 31 := by
  unfold Calendar.daysInMonth
  split
  · split <;> decide
  · split <;> decide

/-- **A written instant is read as itself.** -/
theorem ofText_toText {t : Instant} (h : t.IsDate) : Instant.ofText t.toText = .ok t := by
  have first := h.first
  have last := h.last
  have nano := h.nano
  have leap := h.leap
  have real := h.isDay
  obtain ⟨years, months, days⟩ := isDay_iff.mp real
  have short := daysInMonth_le (Calendar.dayOfNumber (t.second / 86400)).year
    (Calendar.dayOfNumber (t.second / 86400)).month
  unfold Calendar.firstYear Calendar.lastYear at years
  have number := Calendar.dayNumber_dayOfNumber (t.second / 86400)
  unfold Instant.ofText toText
  dsimp only
  rw [String.toList_ofList]
  simp only [List.append_assoc, List.cons_append]
  generalize Calendar.dayOfNumber (t.second / 86400) = day at *
  rw [Reader.parts_written (by omega) (by omega) months ⟨days.1, by omega⟩ (by omega) (by omega)
    (by split <;> omega) (by split <;> omega)]
  dsimp only [bind, Except.bind]
  unfold Reader.Parts.instant
  dsimp only
  rw [real, number]
  have whole : t.second / 86400 * 86400 + ((t.second % 86400).toNat / 3600 : Nat) * 3600 +
      ((t.second % 86400).toNat / 60 % 60 : Nat) * 60 +
        (min ((t.second % 86400).toNat % 60 + if 1000000000 ≤ t.nano then 1 else 0) 59 : Nat) - 0 =
      t.second := by
    split <;> omega
  rw [whole, if_pos (by rfl), if_pos ⟨first, last⟩]
  congr 2
  -- a leap second was written as second 60
  by_cases inLeap : 1000000000 ≤ t.nano
  · have last := leap inLeap
    rw [if_pos inLeap, if_pos inLeap, if_pos (by omega)]
    omega
  · rw [if_neg inLeap, if_neg inLeap, if_neg (by omega)]

example : Instant.ofText "2016-12-31T23:59:60Z" = .ok ⟨1483228799, 1000000000⟩ := by rfl

/-! ## What a text can name -/

namespace Reader

open Text

/-- A number of at most so many digits is below that power of ten. -/
theorem number_some {w n : Nat} {cs rest : List Char} (h : number (some w) cs = .ok (n, rest)) :
    cs.length - rest.length ≤ w ∧ n < Nat.pow 10 (cs.length - rest.length) := by
  unfold number at h
  dsimp only at h
  split at h
  · cases h
  · cases h
  · rename_i c cs _
    cases h
    have digits : ∀ d ∈ ((c :: cs).take w).takeWhile Char.isDigit, d.isDigit = true :=
      List.all_eq_true.mp List.all_takeWhile
    have most : (((c :: cs).take w).takeWhile Char.isDigit).length ≤ ((c :: cs).take w).length :=
      (List.takeWhile_prefix _).length_le
    have below := ofDigits_lt digits
    generalize ((c :: cs).take w).takeWhile Char.isDigit = ds at *
    rw [List.length_take] at most
    have used : (c :: cs).length - ((c :: cs).drop ds.length).length = ds.length := by
      rw [List.length_drop]
      omega
    rw [used]
    exact ⟨by omega, below⟩

theorem fraction_lt {cs rest : List Char} {n : Nat} (h : fraction cs = .ok (n, rest)) :
    n < 1000000000 := by
  unfold fraction at h
  split at h
  · rename_i cs
    obtain ⟨⟨k, after⟩, number, h⟩ := exists_of_bind h
    cases h
    obtain ⟨most, below⟩ := number_some number
    generalize cs.length - after.length = used at *
    have whole : ∀ used ≤ 9, Nat.pow 10 used * Nat.pow 10 (9 - used) = 1000000000 := by decide
    have positive : ∀ used ≤ 9, 0 < Nat.pow 10 (9 - used) := by decide
    rw [← whole used most]
    exact Nat.mul_lt_mul_of_pos_right below (positive used most)
  · cases h
    decide

theorem twoDigits_bounds {least most n : Nat} {cs rest : List Char}
    (h : twoDigits least most cs = .ok (n, rest)) : least ≤ n ∧ n ≤ most := by
  obtain ⟨⟨n, rest⟩, -, h⟩ := exists_of_bind h
  dsimp only at h
  split at h
  · cases h
    assumption
  · cases h

theorem hoursMinutes_mod {cs rest : List Char} {n : Int} (h : hoursMinutes cs = .ok (n, rest)) :
    n % 60 = 0 := by
  obtain ⟨⟨hours, cs⟩, -, h⟩ := exists_of_bind h
  obtain ⟨⟨minutes, cs⟩, -, h⟩ := exists_of_bind h
  dsimp only at h
  split at h
  · cases h
    omega
  · cases h

theorem distance_mod {cs rest : List Char} {n : Int} (h : distance cs = .ok (n, rest)) :
    n % 60 = 0 := by
  unfold distance at h
  split at h
  · cases h
  split at h
  · cases h
    rfl
  split at h
  · cases h
    rfl
  split at h
  · exact hoursMinutes_mod h
  split at h
  · cases back : hoursMinutes _ with
    | error e =>
      rw [back] at h
      cases h
    | ok p =>
      rw [back] at h
      cases h
      have := hoursMinutes_mod back
      omega
  · cases h

/-- The bounds of what a date text says. -/
theorem parts_bounds {cs : List Char} {p : Parts} (h : parts cs = .ok p) :
    p.second ≤ 60 ∧ p.nano < 1000000000 ∧ p.distance % 60 = 0 := by
  -- the seconds, their part and the distance are the last that is read
  obtain ⟨_, -, h⟩ := exists_of_bind h
  obtain ⟨_, -, h⟩ := exists_of_bind h
  obtain ⟨_, -, h⟩ := exists_of_bind h
  obtain ⟨_, -, h⟩ := exists_of_bind h
  obtain ⟨_, -, h⟩ := exists_of_bind h
  dsimp only at h
  split at h
  · cases h
  split at h
  rotate_left
  · cases h
  obtain ⟨_, -, h⟩ := exists_of_bind h
  obtain ⟨_, -, h⟩ := exists_of_bind h
  obtain ⟨_, -, h⟩ := exists_of_bind h
  obtain ⟨_, -, h⟩ := exists_of_bind h
  obtain ⟨_, -, h⟩ := exists_of_bind h
  obtain ⟨_, seconds, h⟩ := exists_of_bind h
  obtain ⟨_, nanos, h⟩ := exists_of_bind h
  obtain ⟨_, distances, h⟩ := exists_of_bind h
  split at h
  · cases h
    exact ⟨(twoDigits_bounds seconds).2, fraction_lt nanos, distance_mod distances⟩
  · cases h

end Reader

/-- **Every instant that a text names is a date.** -/
theorem isDate_of_ofText {s : String} {t : Instant} (h : Instant.ofText s = .ok t) : t.IsDate := by
  obtain ⟨p, read, h⟩ := exists_of_bind h
  obtain ⟨seconds, nanos, distances⟩ := Reader.parts_bounds read
  unfold Reader.Parts.instant at h
  dsimp only at h
  split at h
  · split at h
    · rename_i within
      cases h
      refine ⟨within.1, within.2, ?_, ?_⟩
      · dsimp only
        split <;> omega
      · dsimp only
        split
        · omega
        · omega
    · cases h
  · cases h

end Instant

end LeagueWager
