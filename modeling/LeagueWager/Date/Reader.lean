import LeagueWager.Date.Instant
import LeagueWager.Text.Blank
import LeagueWager.Text.Digits

/-!
# Reading an instant

A date, one of `T`, `t` or a blank, a time of day with seconds, and the distance to universal
time. Blanks may stand before a number, a separator and the distance; months, days, hours, minutes
and seconds have one or two digits; a signed year has any number of them. The first part that is
wrong decides the error: the text ends too early, holds something else, or names a part out of its
range; whether the day exists is looked at last.
-/

namespace LeagueWager

/-- Why a text is not a date. -/
inductive DateError where
  /-- The text ends where a part is due. -/
  | tooShort
  /-- Another character stands where a part is due. -/
  | invalid
  /-- A part, or the day, does not exist. -/
  | outOfRange
  /-- Something follows the date. -/
  | trailing
  /-- The day exists, but not at universal time. -/
  | impossible
  deriving DecidableEq, Repr

/-- What is reported of a text that is not a date. -/
def DateError.message : DateError → String
  | .tooShort => "premature end of input"
  | .invalid => "input contains invalid characters"
  | .outOfRange => "input is out of range"
  | .trailing => "trailing input"
  | .impossible => "no possible date and time matching input"

namespace Instant.Reader

open Text

/-- One to `width` digits; without a width, all there are. -/
def number (width : Option Nat) (cs : List Char) : Except DateError (Nat × List Char) :=
  let candidates := match width with
    | some w => cs.take w
    | none => cs
  match cs, candidates.takeWhile Char.isDigit with
  | [], _ => .error .tooShort
  | _ :: _, [] => .error .invalid
  | _ :: _, ds => .ok (ofDigits 10 ds, cs.drop ds.length)

/-- One character that has to be there. -/
def literal (c : Char) : List Char → Except DateError (List Char)
  | [] => .error .tooShort
  | d :: rest => if d = c then .ok rest else .error .invalid

/-- A number of one or two digits between bounds, after blanks. -/
def twoDigits (least most : Nat) (cs : List Char) : Except DateError (Nat × List Char) := do
  let (n, rest) ← number (some 2) (dropBlanks cs)
  if least ≤ n ∧ n ≤ most then .ok (n, rest) else .error .outOfRange

/-- A separator, after blanks. -/
def separator (c : Char) (cs : List Char) : Except DateError (List Char) :=
  literal c (dropBlanks cs)

/-- A year: up to four digits, or a sign and any number of them. -/
def year (cs : List Char) : Except DateError (Int × List Char) := do
  let (n, rest) ← match dropBlanks cs with
    | '-' :: rest => (number none rest).map fun p => (-(p.1 : Int), p.2)
    | '+' :: rest => (number none rest).map fun p => ((p.1 : Int), p.2)
    | rest => (number (some 4) rest).map fun p => ((p.1 : Int), p.2)
  if -2147483648 ≤ n ∧ n ≤ 2147483647 then .ok (n, rest) else .error .outOfRange

/-- The part of a second behind a point, in nanoseconds; digits after the ninth are dropped. -/
def fraction : List Char → Except DateError (Nat × List Char)
  | '.' :: rest => do
    let (n, after) ← number (some 9) rest
    let used := rest.length - after.length
    .ok (n * Nat.pow 10 (9 - used), after.dropWhile Char.isDigit)
  | rest => .ok (0, rest)

/-- Two digits of a distance: the text is too short if less than two bytes are left of it. -/
def distanceDigits : List Char → Except DateError (Nat × List Char)
  | a :: b :: rest =>
    if a.isDigit && b.isDigit then .ok (ofDigits 10 [a, b], rest) else .error .invalid
  | [a] => if a.utf8Size < 2 then .error .tooShort else .error .invalid
  | [] => .error .tooShort

/-- The characters that may stand between the hours and the minutes of a distance. -/
def isDistanceGap (c : Char) : Bool := c == ':' || isBlank c

/-- A distance in hours and minutes, in seconds. -/
def hoursMinutes (cs : List Char) : Except DateError (Int × List Char) := do
  let (hours, rest) ← distanceDigits cs
  let (minutes, rest) ← distanceDigits (rest.dropWhile isDistanceGap)
  if minutes < 60 then .ok (hours * 3600 + minutes * 60, rest) else .error .outOfRange

/-- The distance of the local time from universal time, in seconds. -/
def distance : List Char → Except DateError (Int × List Char)
  | [] => .error .tooShort
  | c :: rest =>
    if (rest.take 2).length = 2 ∧ (c :: rest.take 2).map Char.toLower = ['u', 't', 'c'] then
      .ok (0, rest.drop 2)
    else if c = 'Z' ∨ c = 'z' then .ok (0, rest)
    else if c = '+' then hoursMinutes rest
    else if c = '-' ∨ c = '−' then (hoursMinutes rest).map fun p => (-p.1, p.2)
    else .error .invalid

/-- What a date text says. -/
structure Parts where
  year : Int
  month : Nat
  day : Nat
  hour : Nat
  minute : Nat
  second : Nat
  nano : Nat
  distance : Int
  deriving DecidableEq, Repr

/-- The parts in the order in which they stand. -/
def parts (cs : List Char) : Except DateError Parts := do
  let (year, cs) ← year cs
  let cs ← separator '-' cs
  let (month, cs) ← twoDigits 1 12 cs
  let cs ← separator '-' cs
  let (day, cs) ← twoDigits 1 31 cs
  -- no blanks here: a blank is a separator itself
  let cs ← match cs with
    | [] => .error .tooShort
    | c :: rest => if c = 't' ∨ c = 'T' ∨ c = ' ' then .ok rest else .error .invalid
  let (hour, cs) ← twoDigits 0 23 cs
  let cs ← separator ':' cs
  let (minute, cs) ← twoDigits 0 59 cs
  let cs ← separator ':' cs
  let (second, cs) ← twoDigits 0 60 cs
  let (nano, cs) ← fraction cs
  let (distance, cs) ← distance (dropBlanks cs)
  if (dropBlanks cs).isEmpty then
    .ok ⟨year, month, day, hour, minute, second, nano, distance⟩
  else .error .trailing

/-- The moment that the parts name; second 60 is the leap second after second 59. -/
def Parts.instant (p : Parts) : Except DateError Instant :=
  if Calendar.isDay p.year p.month p.day && -86400 < p.distance && p.distance < 86400 then
    let seconds := min p.second 59
    let nano := if p.second = 60 then p.nano + 1000000000 else p.nano
    let day := Calendar.dayNumber p.year p.month p.day
    let second := day * 86400 + p.hour * 3600 + p.minute * 60 + seconds - p.distance
    let first := Calendar.dayNumber Calendar.firstYear 1 1 * 86400
    let last := Calendar.dayNumber Calendar.lastYear 12 31 * 86400 + 86399
    if first ≤ second ∧ second ≤ last then .ok ⟨second, nano⟩ else .error .impossible
  else .error .outOfRange

end Instant.Reader

/-- The moment that a text names. -/
def Instant.ofText (s : String) : Except DateError Instant := do
  (← Instant.Reader.parts s.toList).instant

end LeagueWager
