/-!
# The shortest decimal of a floating-point number

A finite number is written with the fewest digits that read back to it, and of those the nearest
to it. The number is taken apart into `m · 2 ^ q`; the reals that read back to it lie between the
midpoints to its neighbours, the midpoints themselves only if `m` is even. For one digit, two
digits and so on, the two points of the decimal grid around the number are tried.
-/

namespace LeagueWager.Decimal

/-- A positive number `m · 2 ^ q`; `narrow` if the number below is half as far as the one above. -/
structure Dyadic where
  m : Nat
  q : Int
  narrow : Bool
  deriving DecidableEq, Repr

/-- The first bit of a number's fraction, which is not stored. -/
def hiddenBit : Nat := 4503599627370496

/-- The magnitude that the bits of a finite floating-point number stand for. -/
def Dyadic.ofBits (bits : Nat) : Dyadic :=
  let fraction := bits % hiddenBit
  let exponent := bits / hiddenBit % 2048
  if exponent = 0 then ⟨fraction, -1074, false⟩
  else ⟨fraction + hiddenBit, (exponent : Int) - 1075, fraction == 0 && 1 < exponent⟩

/-- A decimal: its digits, the last of which stands for `10 ^ exponent`. -/
structure Digits where
  digits : List Char
  exponent : Int
  deriving DecidableEq, Repr

/-- The decimal `n · 10 ^ exponent`, without zeros at its end. -/
def Digits.ofNat (n : Nat) (exponent : Int) : Digits :=
  let ds := Nat.toDigits 10 n
  let kept := (ds.reverse.dropWhile (· == '0')).reverse
  ⟨kept, exponent + (ds.length - kept.length : Nat)⟩

/-- The power of ten that the first digit stands for. -/
def Digits.leading (d : Digits) : Int := d.exponent + d.digits.length - 1

/-- The least `k` with `a / b < 10 ^ k`, for positive `a` and `b`. -/
def magnitude (a b : Nat) : Int :=
  if b ≤ a then (Nat.toDigits 10 (a / b)).length
  else
    match (List.range 400).find? fun j => b ≤ a * Nat.pow 10 (j + 1) with
    | some j => -(j : Int)
    | none => -400

/-- The point of the grid of `count` digits that stands for `low < value < high`, if one does. All
three are given over the same denominator; the bounds count if `closed`. -/
def onGrid (low value high denominator : Nat) (closed : Bool) (count : Nat) : Option Digits :=
  let place := magnitude value denominator - count
  let up := Nat.pow 10 (-place).toNat
  let unit := Nat.pow 10 place.toNat * denominator
  -- a point of the grid between the bounds is there only if one of the two around the value is
  let floor := value * up / unit
  let fits (g : Nat) : Bool :=
    if closed then low * up ≤ g * unit && g * unit ≤ high * up
    else low * up < g * unit && g * unit < high * up
  let below := value * up - floor * unit
  let above := (floor + 1) * unit - value * up
  let preferFloor := below < above || (below == above && floor % 2 == 0)
  match fits floor, fits (floor + 1) with
  | true, true => some (.ofNat (if preferFloor then floor else floor + 1) place)
  | true, false => some (.ofNat floor place)
  | false, true => some (.ofNat (floor + 1) place)
  | false, false => none

/-- The shortest decimal that reads back to a positive number. Seventeen digits always do. -/
def shortest (x : Dyadic) : Digits :=
  -- counted in quarters of `2 ^ q`, in which the midpoints to both neighbours are whole
  let scale := Nat.pow 2 (x.q - 2).toNat
  let denominator := Nat.pow 2 (2 - x.q).toNat
  let value := 4 * x.m * scale
  let low := (4 * x.m - if x.narrow then 1 else 2) * scale
  let high := (4 * x.m + 2) * scale
  let grid? (n : Nat) := onGrid low value high denominator (x.m % 2 == 0) (n + 1)
  ((List.range 17).findSome? grid?).getD (.ofNat x.m x.q)

/-- The characters of a decimal: all its places if `positional`, or else one digit before the
point, and an exponent with its sign. -/
def Digits.spell (positional : Bool) (d : Digits) : List Char :=
  let whole := (d.leading + 1).toNat
  if positional then
    if 0 ≤ d.exponent then d.digits ++ List.replicate d.exponent.toNat '0' ++ ['.', '0']
    else if 0 ≤ d.leading then d.digits.take whole ++ '.' :: d.digits.drop whole
    else ['0', '.'] ++ List.replicate (-d.leading - 1).toNat '0' ++ d.digits
  else
    d.digits.take 1 ++ (if d.digits.length = 1 then [] else '.' :: d.digits.drop 1)
      ++ 'e' :: (if d.leading < 0 then '-' else '+') :: Nat.toDigits 10 d.leading.natAbs

/-- A floating-point number in its shortest decimal; `positional` says for which powers of ten of
the leading digit all places are written out. -/
def spell (positional : Int → Bool) (x : Float) : String :=
  if x.isNaN then "NaN"
  else
    let sign := if 9223372036854775808 ≤ x.toBits.toNat then ['-'] else []
    if x.isInf then String.ofList (sign ++ ['i', 'n', 'f'])
    else if x == 0 then String.ofList (sign ++ ['0', '.', '0'])
    else
      let d := shortest (Dyadic.ofBits x.toBits.toNat)
      String.ofList (sign ++ d.spell (positional d.leading))

end LeagueWager.Decimal
