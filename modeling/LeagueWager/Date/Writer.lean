import LeagueWager.Date.Instant

/-!
# Writing an instant

An instant is written as a date and a time of universal time, with as few groups of three
fractional digits as keep it exact. A leap second is second 60. A year of other than four digits
carries its sign.
-/

namespace LeagueWager.Instant

/-- The decimal digits of `n`, with zeros in front up to `width`. -/
def padded (width n : Nat) : List Char :=
  let digits := (toString n).toList
  List.replicate (width - digits.length) '0' ++ digits

/-- Four digits, or a sign and at least four digits. -/
def yearText (year : Int) : List Char :=
  if 0 ≤ year ∧ year ≤ 9999 then padded 4 year.toNat
  else (if year < 0 then '-' else '+') :: padded 4 year.natAbs

/-- The shortest of no, three, six or nine digits that is exact. -/
def fractionText (nano : Nat) : List Char :=
  if nano = 0 then []
  else if nano % 1000000 = 0 then '.' :: padded 3 (nano / 1000000)
  else if nano % 1000 = 0 then '.' :: padded 6 (nano / 1000)
  else '.' :: padded 9 nano

/-- The written form. -/
def toText (t : Instant) : String :=
  let day := Calendar.dayOfNumber (t.second / 86400)
  let second := (t.second % 86400).toNat
  let leap := 1000000000 ≤ t.nano
  let inMinute := second % 60 + if leap then 1 else 0
  let nano := if leap then t.nano - 1000000000 else t.nano
  String.ofList <|
    yearText day.year ++ '-' :: padded 2 day.month ++ '-' :: padded 2 day.day
      ++ 'T' :: padded 2 (second / 3600) ++ ':' :: padded 2 (second / 60 % 60)
      ++ ':' :: padded 2 inMinute ++ fractionText nano ++ ['Z']

end LeagueWager.Instant
