import LeagueWager.Date.Instant
import LeagueWager.Text.Digits
import LeagueWager.Toml.Value

/-!
# Numbers and dates of a TOML document

Digits may be grouped by single underscores between them. A whole number has 64 bits with sign; in
base sixteen, eight or two it has none. A number with a fraction or an exponent is the nearest
floating-point number, and has to be finite above. Of a date or a time only the form is checked.
-/

namespace LeagueWager.Toml

/-- Digits, with single underscores between them. -/
def isGrouped : List Char → Bool
  | [] => false
  | '_' :: _ => false
  | _ :: '_' :: rest => isGrouped rest
  | [_] => true
  | _ :: rest => isGrouped rest

/-- The digits at the start of the text, without their underscores, and what follows them. -/
def digits? (base : Nat) (cs : List Char) : Option (List Char × List Char) :=
  let run := cs.takeWhile fun c => c == '_' || Text.isDigitOf base c
  if isGrouped run then some (run.filter (· != '_'), cs.drop run.length) else none

/-- The least and the largest whole number. -/
def inRange (n : Int) : Bool := -9223372036854775808 ≤ n && n ≤ 9223372036854775807

/-- A whole number, if it is in range. -/
def whole? (n : Int) (rest : List Char) : Option (Value × List Char) :=
  if inRange n then some (.whole n, rest) else none

/-- A whole number of another base, behind its mark. -/
def ofBase? (base : Nat) (cs : List Char) : Option (Value × List Char) := do
  let (ds, rest) ← digits? base cs
  whole? (Text.ofDigits base ds) rest

/-- The number `digits · 10 ^ exponent`, as near as floating point comes. Beyond 400 places the
outcome is known beforehand. -/
def nearest (digits : List Char) (exponent : Int) : Float :=
  let n := Text.ofDigits 10 digits
  let place := (Nat.toDigits 10 n).length + exponent
  if n = 0 ∨ place < -400 then 0
  else if place > 400 then 1 / 0
  else Float.ofScientific n (exponent < 0) exponent.natAbs

/-- The exponent behind its mark, and what follows it. -/
def exponent? : List Char → Option (Int × List Char)
  | '-' :: cs => do
    let (ds, rest) ← digits? 10 cs
    some (-(Text.ofDigits 10 ds : Int), rest)
  | '+' :: cs => do
    let (ds, rest) ← digits? 10 cs
    some (Text.ofDigits 10 ds, rest)
  | cs => do
    let (ds, rest) ← digits? 10 cs
    some (Text.ofDigits 10 ds, rest)

/-- A number with a fraction or an exponent. -/
def real? (negative : Bool) (digits : List Char) (exponent : Int) (rest : List Char) :
    Option (Value × List Char) :=
  let x := nearest digits exponent
  if negative then some (.real (-x), rest)
  else if x.isInf then none
  else some (.real x, rest)

/-- A decimal number behind its sign. -/
def decimal? (negative : Bool) (cs : List Char) : Option (Value × List Char) := do
  let (ds, rest) ← digits? 10 cs
  if ds.length > 1 && ds.head? == some '0' then none
  else
    match rest with
    | '.' :: rest => do
      let (fs, rest) ← digits? 10 rest
      let places : Int := fs.length
      match rest with
      | c :: after =>
        if c = 'e' ∨ c = 'E' then do
          let (e, rest) ← exponent? after
          real? negative (ds ++ fs) (e - places) rest
        else real? negative (ds ++ fs) (-places) rest
      | [] => real? negative (ds ++ fs) (-places) []
    | c :: after =>
      if c = 'e' ∨ c = 'E' then do
        let (e, rest) ← exponent? after
        real? negative ds e rest
      else
        let n : Int := Text.ofDigits 10 ds
        whole? (if negative then -n else n) rest
    | [] =>
      let n : Int := Text.ofDigits 10 ds
      whole? (if negative then -n else n) []

/-- A number behind its sign: infinity, no number, or a decimal one. -/
def signed? (negative : Bool) : List Char → Option (Value × List Char)
  | 'i' :: 'n' :: 'f' :: rest => some (.real (if negative then -1 / 0 else 1 / 0), rest)
  | 'n' :: 'a' :: 'n' :: rest => some (.real (0 / 0), rest)
  | cs => decimal? negative cs

/-- A number. -/
def number? : List Char → Option (Value × List Char)
  | '0' :: 'x' :: rest => ofBase? 16 rest
  | '0' :: 'o' :: rest => ofBase? 8 rest
  | '0' :: 'b' :: rest => ofBase? 2 rest
  | '-' :: rest => signed? true rest
  | '+' :: rest => signed? false rest
  | cs => signed? false cs

/-- Digits of a fixed number, and what follows them. -/
def places? (count : Nat) (cs : List Char) : Option (Nat × List Char) :=
  let ds := cs.take count
  if ds.length = count ∧ ds.all Char.isDigit then some (Text.ofDigits 10 ds, cs.drop count)
  else none

/-- Two digits for a number between bounds, and what follows them. -/
def upTo? (least most : Nat) (cs : List Char) : Option (Nat × List Char) := do
  let (n, rest) ← places? 2 cs
  if least ≤ n ∧ n ≤ most then some (n, rest) else none

/-- The text behind one character that has to come. -/
def behind? (c : Char) : List Char → Option (List Char)
  | d :: rest => if d = c then some rest else none
  | [] => none

/-- The text behind a day. -/
def day? (cs : List Char) : Option (List Char) := do
  let (year, cs) ← places? 4 cs
  let cs ← behind? '-' cs
  let (month, cs) ← upTo? 1 12 cs
  let cs ← behind? '-' cs
  let (_, cs) ← upTo? 1 (Calendar.daysInMonth year month) cs
  some cs

/-- The text behind a time of day. -/
def time? (cs : List Char) : Option (List Char) := do
  let (_, cs) ← upTo? 0 23 cs
  let cs ← behind? ':' cs
  let (_, cs) ← upTo? 0 59 cs
  let cs ← behind? ':' cs
  let (_, cs) ← upTo? 0 60 cs
  match cs with
  | '.' :: d :: rest => some (if d.isDigit then rest.dropWhile Char.isDigit else cs)
  | _ => some cs

/-- The text behind an offset, if there is one. -/
def skipOffset (cs : List Char) : Option (List Char) :=
  match cs with
  | [] => some []
  | c :: rest =>
    if c = 'Z' ∨ c = 'z' then some rest
    else if c = '+' ∨ c = '-' then do
      let (_, rest) ← upTo? 0 23 rest
      let rest ← behind? ':' rest
      let (_, rest) ← upTo? 0 59 rest
      some rest
    else some cs

/-- The text behind a day, a time of day, or both. -/
def date? (cs : List Char) : Option (List Char) :=
  match day? cs with
  | none => time? cs
  | some rest =>
    match rest with
    | c :: after =>
      if c = 'T' ∨ c = 't' ∨ c = ' ' then
        match time? after with
        | some rest => skipOffset rest
        | none => some rest
      else some rest
    | [] => some []

end LeagueWager.Toml
