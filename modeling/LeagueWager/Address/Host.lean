import LeagueWager.Address.Escaped
import LeagueWager.Address.Name

/-!
# Hosts

A host is a name, or a number of 32 or of 128 bits. A name whose last part is a number has to be a
number as a whole. A scheme that is not known has hosts of any form.
-/

namespace LeagueWager.Address

open Text (split join)

/-! ## Numbers of 32 bits -/

/-- A part of a number: decimal, octal behind a zero, or of base sixteen behind its mark. -/
def numberPart? (cs : List Char) : Option Nat :=
  let inBase (base : Nat) (ds : List Char) : Option Nat :=
    if ds.all (Text.isDigitOf base) then some (Text.ofDigits base ds) else none
  match cs with
  | [] => none
  | '0' :: 'x' :: ds => inBase 16 ds
  | '0' :: 'X' :: ds => inBase 16 ds
  | '0' :: d :: ds => inBase 8 (d :: ds)
  | ds => inBase 10 ds

/-- The parts of a name, less an empty one at its end. -/
def nameParts (name : List Char) : List (List Char) :=
  let parts := split (· == '.') name
  if parts.length > 1 && parts.getLast? == some [] then parts.dropLast else parts

/-- The last part of the name is a number. -/
def endsInNumber (name : List Char) : Bool :=
  match (nameParts name).getLast? with
  | some part => (!part.isEmpty && part.all Char.isDigit) || (numberPart? part).isSome
  | none => false

/-- The parts as one number: the last fills what the others leave. -/
def number32? (parts : List (List Char)) : Option Nat := do
  let numbers ← parts.mapM numberPart?
  match numbers.reverse with
  | [] => none
  | last :: higher =>
    if 3 < higher.length ∨ higher.any (255 < ·) ∨ Nat.pow 256 (4 - higher.length) ≤ last then none
    else
      some <| higher.reverse.zipIdx.foldl (fun total (n, place) =>
        total + n * Nat.pow 256 (3 - place)) last

/-- A number of 32 bits, as four numbers with points between them. -/
def writeNumber32 (n : Nat) : List Char :=
  join '.' ([n / 16777216 % 256, n / 65536 % 256, n / 256 % 256, n % 256].map (Nat.toDigits 10))

/-! ## Numbers of 128 bits -/

/-- A piece of sixteen bits. -/
def piece? (cs : List Char) : Option Nat :=
  if 0 < cs.length ∧ cs.length ≤ 4 ∧ cs.all (Text.isDigitOf 16) then some (Text.ofDigits 16 cs)
  else none

/-- One of the four numbers that may stand for the last two pieces. -/
def byte? (cs : List Char) : Option Nat :=
  if cs.all Char.isDigit ∧ 0 < cs.length ∧ cs.length ≤ 3 ∧ (cs.length = 1 ∨ cs.head? ≠ some '0')
      ∧ Text.ofDigits 10 cs < 256 then some (Text.ofDigits 10 cs)
  else none

/-- The pieces between colons; the last may be written as four numbers. -/
def pieces? : List (List Char) → Option (List Nat)
  | [] => some []
  | [last] =>
    if last.contains '.' then do
      let bytes ← (split (· == '.') last).mapM byte?
      match bytes with
      | [a, b, c, d] => some [a * 256 + b, c * 256 + d]
      | _ => none
    else do
      let n ← piece? last
      some [n]
  | part :: parts => do
    let n ← piece? part
    let rest ← pieces? parts
    some (n :: rest)

/-- The two sides of the first pair of colons, if there is one. -/
def splitGap : List Char → Option (List Char × List Char)
  | ':' :: ':' :: rest => some ([], rest)
  | c :: rest => do
    let (before, after) ← splitGap rest
    some (c :: before, after)
  | [] => none

/-- The pieces of one side. -/
def side? (cs : List Char) : Option (List Nat) :=
  if cs.isEmpty then some [] else pieces? (split (· == ':') cs)

/-- The eight pieces of a number. A pair of colons stands for as many zeros as are missing. -/
def number128? (cs : List Char) : Option (List Nat) :=
  match splitGap cs with
  | none => do
    let all ← pieces? (split (· == ':') cs)
    if all.length = 8 then some all else none
  | some (before, after) => do
    let front ← side? before
    let back ← side? after
    -- the pair of colons stands for one zero at least
    if before.contains '.' ∨ 7 < front.length + back.length then none
    else some (front ++ List.replicate (8 - front.length - back.length) 0 ++ back)

/-- The zeros in front of a list. -/
def leadingZeros (pieces : List Nat) : Nat := (pieces.takeWhile (· == 0)).length

/-- The first of the longest runs of zeros, as where it starts and its length. -/
def longestGap : Nat → List Nat → Nat × Nat
  | _, [] => (0, 0)
  | start, piece :: pieces =>
    let here := leadingZeros (piece :: pieces)
    let later := longestGap (start + 1) pieces
    if later.2 ≤ here then (start, here) else later

/-- The pieces between colons, with a pair of colons for the longest run of zeros. -/
def compress (pieces : List Nat) : List Char :=
  let write (l : List Nat) : List Char := join ':' (l.map (Nat.toDigits 16))
  let (start, length) := longestGap 0 pieces
  if length < 2 then write pieces
  else write (pieces.take start) ++ [':', ':'] ++ write (pieces.drop (start + length))

/-! ## Hosts -/

/-- The character may not stand in a host of any form. -/
def badInHost (c : Char) : Bool :=
  c == '\x00' || ['\t', '\n', '\r', ' ', '#', '/', ':', '<', '>', '?', '@', '[', '\\', ']', '^',
    '|'].contains c

/-- The character may not stand in a name. -/
def badInName (c : Char) : Bool :=
  c.toNat < 32 || c.toNat == 127 || c == '%' || badInHost c

/-- A number between brackets, behind the opening one. -/
def bracketed? (cs : List Char) : Option (List Char) :=
  match cs.reverse with
  | ']' :: inside => do
    let pieces ← number128? inside.reverse
    some ('[' :: compress pieces ++ [']'])
  | _ => none

/-- The written form of a host of a known scheme. -/
def host? (cs : List Char) : Option (List Char) :=
  match cs with
  | '[' :: rest => bracketed? rest
  | cs => do
    let text ← String.fromUTF8? ⟨(unescape cs).toArray⟩
    let name ← Name.ascii? text.toList
    if name.isEmpty ∨ name.any badInName then none
    else if endsInNumber name then do
      let n ← number32? (nameParts name)
      some (writeNumber32 n)
    else some name

/-- The written form of a host of another scheme. -/
def otherHost? (cs : List Char) : Option (List Char) :=
  match cs with
  | '[' :: rest => bracketed? rest
  | cs => if cs.any badInHost then none else some (escape isControl cs)

end LeagueWager.Address
