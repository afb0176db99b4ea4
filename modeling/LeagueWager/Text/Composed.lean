import LeagueWager.Text.CombiningClass
import LeagueWager.Text.Composed.Pairs

/-!
# Composed texts

One text may be written in several ways: a letter with a mark is one character or two, and marks
that do not touch have no order. The composed form takes each letter apart, puts the marks into
the order of their classes, and joins to each letter what can be joined. Characters that stand for
one other character are left as they are.
-/

namespace LeagueWager.Text

/-! ## Syllables of Hangul -/

/-- The syllable that two code points make up: a lead and a vowel, or a syllable without a tail
and a tail. -/
def syllable? (a b : Nat) : Option Nat :=
  if 0x1100 ≤ a ∧ a < 0x1113 ∧ 0x1161 ≤ b ∧ b < 0x1176 then
    some (0xAC00 + ((a - 0x1100) * 21 + (b - 0x1161)) * 28)
  else if 0xAC00 ≤ a ∧ a < 0xD7A4 ∧ (a - 0xAC00) % 28 = 0 ∧ 0x11A7 < b ∧ b < 0x11C3 then
    some (a + (b - 0x11A7))
  else none

/-- The two code points that make up a syllable. -/
def syllableParts? (n : Nat) : Option (Nat × Nat) :=
  if 0xAC00 ≤ n ∧ n < 0xD7A4 then
    let place := n - 0xAC00
    if place % 28 = 0 then some (0x1100 + place / 588, 0x1161 + place % 588 / 28)
    else some (n - place % 28, 0x11A7 + place % 28)
  else none

/-! ## Two characters as one -/

/-- The character that two characters make up. -/
def joined? (a b : Char) : Option Char :=
  ((syllable? a.toNat b.toNat).or (marked? a.toNat b.toNat)).map Char.ofNat

/-- The parts of a character; no character has more than four. -/
def parts : Nat → Char → List Char
  | 0, c => [c]
  | more + 1, c =>
    match (syllableParts? c.toNat).or (unmarked? c.toNat) with
    | some (first, last) => parts more (Char.ofNat first) ++ [Char.ofNat last]
    | none => [c]

/-! ## Texts -/

/-- Puts a character in front of an ordered text; a mark goes behind marks of lower classes. -/
def place (c : Char) : List Char → List Char
  | [] => [c]
  | d :: rest =>
    if combiningClass d ≠ 0 ∧ combiningClass d < combiningClass c then d :: place c rest
    else c :: d :: rest

/-- The text with marks in the order of their classes. -/
def order (cs : List Char) : List Char := cs.foldr place []

/-- Joins what follows to a letter. `marks` are those behind the letter that did not join. -/
def joinTo (letter : Char) (marks : List Char) : List Char → List Char
  | [] => letter :: marks
  | c :: rest =>
    -- a mark joins past marks of lower classes only
    let reaches := marks.getLast?.all fun mark => combiningClass mark < combiningClass c
    match if reaches then joined? letter c else none with
    | some both => joinTo both marks rest
    | none =>
      if combiningClass c = 0 then letter :: marks ++ joinTo c [] rest
      else joinTo letter (marks ++ [c]) rest

/-- The composed form of a text. -/
def composed (cs : List Char) : List Char :=
  match order (cs.flatMap (parts 3)) with
  | [] => []
  | c :: rest => joinTo c [] rest

end LeagueWager.Text
