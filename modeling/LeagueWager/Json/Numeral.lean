import LeagueWager.Json.Tree
import LeagueWager.Text.Digits

/-!
# Numbers of a JSON text

A numeral is a sign, digits without a leading zero, digits behind a point, and an exponent. Whole
numbers of 64 bits are exact. Any other number is taken from as many of its digits as fit 64 bits,
scaled once by a power of ten in floating point; if it is too large for that, it has no value.
-/

namespace LeagueWager.Json

/-- The parts of a numeral; `point` and `exponent` are absent if their mark is. -/
structure Numeral where
  negative : Bool
  digits : List Char
  point : Option (List Char)
  /-- Whether the exponent is negative, and its digits. -/
  exponent : Option (Bool × List Char)

namespace Numeral

/-- The largest whole number that is kept digit by digit. -/
def mostKept : Nat := 18446744073709551615

/-- Takes digits into `n` for as long as it fits 64 bits; the digits left over come with it. -/
def take (n : Nat) : List Char → Nat × List Char
  | [] => (n, [])
  | d :: ds =>
    let next := n * 10 + (d.toNat - 48)
    if next ≤ mostKept then take next ds else (n, d :: ds)

/-- Ten to the power `n`, as near as floating point comes. -/
def powerOfTen (n : Nat) : Float := Float.ofScientific 1 false n

/-- `x` divided by ten to the power `n`, in steps of at most 308 places. -/
def shrink (x : Float) (n : Nat) : Float :=
  if n ≤ 308 then x / powerOfTen n
  else if x == 0 then x
  else shrink (x / powerOfTen 308) (n - 308)
termination_by n

/-- `x` times ten to the power `e`, if that is finite. -/
def scale (x : Float) (e : Int) : Option Float :=
  if e < 0 then some (shrink x e.natAbs)
  else if e ≤ 308 then
    let y := x * powerOfTen e.toNat
    if y.isInf then none else some y
  else if x == 0 then some x
  else none

/-- The exponent's size is kept in 32 bits. -/
def mostExponent : Nat := 2147483647

/-- The nearest exponent of 32 bits. -/
def clamp (e : Int) : Int := max (-2147483648) (min e 2147483647)

/-- The magnitude of a number that is not whole, if it is finite. -/
def magnitude (m : Numeral) : Option Float :=
  let (kept, dropped) := take 0 m.digits
  let fraction := m.point.getD []
  let (kept, unused) := take kept fraction
  let places : Int := (dropped.length : Int) - ((fraction.length - unused.length : Nat) : Int)
  let x := (UInt64.ofNat kept).toFloat
  match m.exponent with
  | none => scale x places
  | some (negative, ds) =>
    let size := Text.ofDigits 10 ds
    if size ≤ mostExponent then
      scale x (clamp (if negative then places - (size : Int) else places + (size : Int)))
    -- the exponent alone decides
    else if negative ∨ kept = 0 then some 0
    else none

/-- The number that the numeral denotes. -/
def number (m : Numeral) : Except Fault Number :=
  let (kept, dropped) := take 0 m.digits
  if dropped.isEmpty && m.point.isNone && m.exponent.isNone
      && (!m.negative || (kept ≠ 0 && kept ≤ 9223372036854775808)) then
    .ok (.whole (if m.negative then -(kept : Int) else kept))
  else match m.magnitude with
    | some x => .ok (.real (if m.negative then -x else x))
    | none => .error .numberOutOfRange

end Numeral

/-- A numeral that breaks off: a reader asks for more where the text ends. -/
def brokenNumeral (rest : List Char) : Tree :=
  if rest.isEmpty then .bad .endInValue .invalidNumber else .bad .invalidNumber .invalidNumber

/-- The sign of an exponent, and what follows it. -/
def signPart : List Char → Bool × List Char
  | '+' :: rest => (false, rest)
  | '-' :: rest => (true, rest)
  | rest => (false, rest)

/-- The digits behind the point, if there is a point, and what follows them. -/
def pointPart : List Char → Option (List Char) × List Char
  | '.' :: rest =>
    let ds := rest.takeWhile Char.isDigit
    (some ds, rest.drop ds.length)
  | rest => (none, rest)

/-- The exponent, if its mark is there, and what follows it; an error if it has no digit. -/
def exponentPart : List Char → Except (List Char) (Option (Bool × List Char) × List Char)
  | [] => .ok (none, [])
  | c :: after =>
    if c = 'e' ∨ c = 'E' then
      let (negative, rest) := signPart after
      let ds := rest.takeWhile Char.isDigit
      if ds.isEmpty then .error rest else .ok (some (negative, ds), rest.drop ds.length)
    else .ok (none, c :: after)

/-- The numeral behind its sign, and what follows it. -/
def numeralTail (negative : Bool) (cs : List Char) : Tree × List Char :=
  let ds := cs.takeWhile Char.isDigit
  let rest := cs.drop ds.length
  if ds.isEmpty then (brokenNumeral cs, [])
  else if ds.head? = some '0' && ds.length > 1 then (.bad .invalidNumber .invalidNumber, [])
  else
    let (point, rest) := pointPart rest
    if point = some [] then (brokenNumeral rest, [])
    else
      match exponentPart rest with
      | .ok (exponent, rest) => (.number (Numeral.number ⟨negative, ds, point, exponent⟩), rest)
      | .error rest => (brokenNumeral rest, [])

end LeagueWager.Json
