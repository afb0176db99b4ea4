/-!
# Names beyond ASCII in the letters of ASCII

The label of a host name is written with its ASCII characters in front, and behind them the
positions and numbers of the others, as steps in base 36 whose thresholds adapt to the steps
before.

* `length_lt_of_readStep`: reading a step takes at least one character.
-/

namespace LeagueWager.Address.Punycode

/-- The digit of base 36. -/
def digit (n : Nat) : Char := Char.ofNat (if n < 26 then 97 + n else 22 + n)

/-- The least digit that goes on, at place `k`. -/
def threshold (bias k : Nat) : Nat := max 1 (min 26 (k - bias))

/-- A step, least digit first. There are as many places as are left. -/
def digits (bias : Nat) : Nat → Nat → Nat → List Char
  | 0, _, q => [digit q]
  | places + 1, k, q =>
    let t := threshold bias k
    if q < t then [digit q]
    else digit (t + (q - t) % (36 - t)) :: digits bias places (k + 36) ((q - t) / (36 - t))

/-- The bias behind a step that was halved `k / 36` times. -/
def settle : Nat → Nat → Nat → Nat
  | 0, delta, k => k + 36 * delta / (delta + 38)
  | n + 1, delta, k =>
    if 455 < delta then settle n (delta / 35) (k + 36) else k + 36 * delta / (delta + 38)

/-- The bias behind a step, with `count` characters written; the first step counts for less. -/
def adapt (delta count : Nat) (isFirst : Bool) : Nat :=
  let delta := if isFirst then delta / 700 else delta / 2
  settle 32 (delta + delta / count) 0

/-- How far the writing has come. -/
structure Progress where
  written : List Char
  delta : Nat
  bias : Nat
  count : Nat

/-- Passes one character, on the round that writes the characters with the number `n`. -/
def pass (basic n : Nat) (p : Progress) (c : Char) : Progress :=
  if c.toNat < n then { p with delta := p.delta + 1 }
  else if c.toNat = n then
    { written := p.written ++ digits p.bias 32 36 p.delta
      delta := 0
      bias := adapt p.delta (p.count + 1) (p.count == basic)
      count := p.count + 1 }
  else p

/-- A round for each number that occurs, in order; `n` is the number behind the last. -/
def rounds (label : List Char) (basic : Nat) : List Nat → Nat → Progress → Progress
  | [], _, p => p
  | m :: rest, n, p =>
    let p := { p with delta := p.delta + (m - n) * (p.count + 1) }
    let p := label.foldl (pass basic m) p
    rounds label basic rest (m + 1) { p with delta := p.delta + 1 }

/-- The label in the letters of ASCII. -/
def encode (label : List Char) : List Char :=
  let plain := label.filter fun c => c.toNat < 128
  let numbers := ((label.map Char.toNat).filter (128 ≤ ·)).mergeSort.eraseDups
  -- a label of ASCII alone has no second part
  if numbers.isEmpty then label
  else
    let start : Progress := ⟨[], 0, 72, plain.length⟩
    let tail := (rounds label plain.length numbers 128 start).written
    ['x', 'n', '-', '-'] ++ plain ++ (if plain.isEmpty then [] else ['-']) ++ tail

/-! ## Reading -/

/-- The value of a digit of base 36. -/
def digit? (c : Char) : Option Nat :=
  let n := c.toNat
  if 97 ≤ n ∧ n < 123 then some (n - 97)
  else if 48 ≤ n ∧ n < 58 then some (n - 22)
  else none

/-- Numbers from here on are too large to be read. -/
def limit : Nat := 4294967296

/-- Reads a step, least digit first, each digit worth its weight, and adds it to a total. What is
behind the step is returned as well. -/
def readStep (bias : Nat) : Nat → Nat → Nat → List Char → Option (Nat × List Char)
  | _, _, _, [] => none
  | k, weight, total, c :: rest => do
    let d ← digit? c
    let t := threshold bias k
    if limit ≤ d * weight ∨ limit ≤ total + d * weight then none
    else if d < t then some (total + d * weight, rest)
    else if limit ≤ weight * (36 - t) then none
    else readStep bias (k + 36) (weight * (36 - t)) (total + d * weight) rest

theorem length_lt_of_readStep {bias : Nat} {cs : List Char} :
    ∀ {k weight total n : Nat} {rest : List Char},
      readStep bias k weight total cs = some (n, rest) → rest.length < cs.length := by
  induction cs with
  | nil => intro k weight total n rest h; simp [readStep] at h
  | cons c cs ih =>
    intro k weight total n rest h
    rw [readStep] at h
    cases hd : digit? c with
    | none => rw [hd] at h; cases h
    | some d =>
      rw [hd] at h
      simp only [Option.bind_eq_bind, Option.bind_some] at h
      split at h
      · cases h
      · split at h
        · obtain ⟨-, rfl⟩ := Prod.mk.inj (Option.some.inj h)
          exact Nat.lt_succ_self _
        · split at h
          · cases h
          · exact Nat.lt_succ_of_lt (ih h)

/-- Puts the characters that the steps tell of into the text. `number` is the one that the last of
them has, `place` is where the next would be put if it had that number. -/
def insertSteps (bias number place : Nat) (text : List Char) (steps : List Char) :
    Option (List Char) :=
  if steps.isEmpty then some text
  else
    match h : readStep bias 36 1 place steps with
    | none => none
    | some (n, rest) =>
      let count := text.length + 1
      let number := number + n / count
      if number.isValidChar then
        let text := text.insertIdx (n % count) (Char.ofNat number)
        insertSteps (adapt (n - place) count (place == 0)) number (n % count + 1) text rest
      else none
termination_by steps.length
decreasing_by exact length_lt_of_readStep h

/-- The characters in front of the last hyphen, and those behind it. Without a hyphen, or with one
in front alone, all are behind. -/
def splitPlain (code : List Char) : List Char × List Char :=
  let tail := (code.reverse.takeWhile (· != '-')).reverse
  if code.length ≤ tail.length + 1 then ([], code)
  else (code.take (code.length - tail.length - 1), tail)

/-- The text that a code in lower case stands for. -/
def decode? (code : List Char) : Option (List Char) :=
  let (plain, steps) := splitPlain code
  insertSteps 72 128 0 plain steps

end LeagueWager.Address.Punycode
