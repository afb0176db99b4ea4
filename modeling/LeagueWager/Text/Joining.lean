import LeagueWager.Text.Marks

/-!
# Letters that join

In some scripts a letter is drawn joined to the next one, to the one before, or to both. Marks in
between do not part them.
-/

namespace LeagueWager.Text

/-- Code points of the joining type D, dual-joining. -/
def dualStretches : List Nat := [
  1568, 1, 5, 1, 1, 1, 1, 5, 4, 13, 1, 7, 1, 2, 35, 2, 8, 16, 18, 38, 1, 2, 9, 1, 1, 1, 1, 2,
  40, 3, 2, 1, 18, 3, 5, 4, 1, 9, 1, 1, 1, 1, 1, 2, 31, 11, 3, 15, 2, 4, 1, 1, 2, 3, 2, 6, 74,
  33, 86, 5, 2, 1, 1, 10, 1, 1, 10, 1, 1, 4, 2, 1, 29, 1, 2, 5, 1, 1, 16, 10, 5, 2, 2, 6, 1, 15,
  3902, 1, 24, 89, 14, 34, 1, 1, 36757, 50, 25166, 5, 14, 4, 1, 5, 1, 3, 10, 4, 145, 1, 1, 1, 3,
  3, 1, 2, 1, 1, 2, 1, 28, 2, 338, 33, 1, 1, 415, 2, 1, 2, 104, 3, 1, 17, 12, 3, 28, 4, 2, 12,
  46, 1, 1, 2, 4, 1, 2, 2, 1, 2, 1, 1, 2, 1, 5, 1, 55605, 68]

/-- Code points of the joining type L, left-joining. -/
def forwardStretches : List Nat := [
  43122, 1, 25178, 1, 9, 1, 552, 1, 714, 1]

/-- Code points of the joining type R, right-joining. -/
def backwardStretches : List Nat := [
  1570, 4, 1, 1, 1, 1, 5, 4, 21, 1, 40, 3, 1, 3, 16, 18, 38, 1, 2, 9, 1, 1, 1, 1, 2, 2, 1, 1,
  24, 2, 32, 1, 4, 5, 4, 1, 9, 1, 1, 1, 1, 1, 2, 1, 29, 1, 11, 3, 15, 2, 4, 1, 1, 2, 3, 2, 198,
  1, 5, 2, 1, 1, 10, 1, 1, 3, 14, 1, 1, 2, 5, 19, 11, 1, 27, 3, 1, 1, 2, 2, 6, 1, 66059, 1, 1,
  1, 1, 2, 3, 5, 10, 1, 3, 1, 2, 1, 10, 1, 145, 1, 1, 3, 3, 1, 2, 1, 1, 2, 1, 1, 23, 4, 373, 1,
  415, 1, 112, 1, 32, 1, 31, 2, 62, 3, 2, 2, 2, 1, 4, 2, 5, 1]

/-- The letter joins the next one. -/
def joinsNext (c : Char) : Bool :=
  Stretches.contains dualStretches c.toNat || Stretches.contains forwardStretches c.toNat

/-- The letter joins the one before it. -/
def joinsPrevious (c : Char) : Bool :=
  Stretches.contains dualStretches c.toNat || Stretches.contains backwardStretches c.toNat

/-- The character does not part the letters around it: a mark without room of its own, or the one
letter that is written as such a mark. -/
def isTransparent (c : Char) : Bool := isNonspacing c || c.toNat == 0x1E94B

/-- The first character that is not transparent is a letter that joins. -/
def meetsJoining (joins : Char → Bool) : List Char → Bool
  | [] => false
  | c :: rest => joins c || (isTransparent c && meetsJoining joins rest)

end LeagueWager.Text
