import LeagueWager.Text.Marks

/-!
# Directions of writing

Letters run from the left or from the right. Numbers run from the left in any text, in two kinds
that do not mix; signs and marks run as what is beside them.
-/

namespace LeagueWager.Text

/-- The direction of a character. -/
inductive Direction where
  | fromLeft
  | fromRight
  /-- A digit of Arabic, and what belongs to numbers of such. -/
  | arabicNumber
  /-- Any other digit of a number. -/
  | number
  /-- A sign. -/
  | neutral
  /-- A mark on the character before it. -/
  | mark
  /-- A blank, an end of a line, or what sets directions itself. -/
  | control
  deriving DecidableEq, Repr

/-- Code points of the bidirectional classes R and AL. -/
def fromRightStretches : List Nat := [
  1424, 1, 45, 1, 1, 1, 2, 1, 2, 1, 1, 56, 8, 1, 2, 1, 1, 1, 13, 48, 34, 3, 1, 101, 15, 2, 7, 2,
  10, 23, 1, 30, 27, 91, 11, 58, 9, 2, 4, 3, 1, 24, 4, 1, 9, 1, 3, 1, 5, 43, 3, 52, 2, 5, 9, 42,
  5957, 1, 56077, 1, 1, 10, 1, 153, 16, 363, 18, 64, 2, 54, 40, 13, 115, 143, 2305, 287, 1, 225,
  3, 1, 2, 5, 4, 40, 3, 4, 1, 165, 2, 82, 7, 484, 4, 8, 10, 6, 10, 31, 6, 241, 31, 44, 2, 35, 9,
  33, 6, 70, 11, 49, 4, 122, 55296, 208, 7, 109, 7, 1445, 2, 270]

/-- Code points of the bidirectional class AN. -/
def arabicNumberStretches : List Nat := [
  1536, 6, 90, 10, 1, 2, 112, 1, 434, 2, 80, 1, 66637, 10, 6, 10, 278, 31]

/-- Code points of the bidirectional class EN. -/
def numberStretches : List Nat := [
  48, 10, 120, 2, 5, 1, 1590, 10, 6518, 1, 3, 6, 6, 10, 1022, 20, 55924, 10, 967, 27, 51700, 10,
  2772, 50, 6400, 11, 2789, 10]

/-- Code points of the bidirectional classes ES, ET, CS, ON and BN. -/
def neutralStretches : List Nat := [
  0, 9, 5, 14, 5, 15, 10, 7, 26, 6, 26, 10, 1, 36, 1, 7, 2, 1, 1, 3, 2, 5, 23, 1, 31, 1, 449, 2,
  7, 14, 2, 14, 5, 9, 1, 17, 116, 2, 8, 1, 5, 2, 1, 1, 110, 1, 403, 1, 2, 3, 118, 2, 1, 2, 1, 1,
  1, 2, 90, 1, 115, 1, 10, 1, 268, 4, 504, 2, 7, 1, 245, 1, 257, 8, 125, 7, 448, 1, 250, 4,
  1106, 10, 102, 1, 666, 2, 318, 1, 20, 10, 6, 11, 3, 1, 305, 1, 3, 2, 152, 34, 1469, 1, 1, 3,
  11, 3, 13, 3, 13, 3, 13, 2, 12, 3, 2, 24, 7, 48, 1, 6, 4, 6, 10, 5, 11, 5, 17, 48, 48, 2, 1,
  4, 1, 2, 10, 1, 1, 3, 5, 6, 1, 1, 1, 1, 1, 1, 4, 1, 11, 2, 4, 5, 5, 4, 2, 16, 41, 3, 4, 422,
  69, 26, 1, 148, 22, 11, 21, 40, 98, 450, 1, 339, 256, 628, 2, 138, 229, 6, 14, 7, 256, 94, 34,
  26, 1, 89, 12, 214, 26, 16, 1, 4, 3, 25, 15, 1, 5, 2, 5, 3, 91, 2, 3, 1, 90, 1, 196, 38, 9, 1,
  45, 2, 49, 16, 28, 3, 50, 15, 12, 4, 167, 4, 99, 2, 31, 1, 6592, 64, 22160, 55, 326, 3, 99, 1,
  10, 2, 128, 34, 102, 1, 159, 4, 12, 2, 58, 4, 754, 2, 20413, 1, 153, 16, 363, 18, 64, 2, 54,
  40, 13, 3, 16, 10, 22, 35, 1, 19, 1, 4, 147, 1, 1, 15, 10, 7, 26, 6, 26, 11, 122, 7, 1, 7, 1,
  16, 257, 1, 62, 77, 3, 13, 3, 1, 1918, 1, 537, 7, 558, 1, 353, 9, 377, 20, 1530, 13, 2408, 29,
  20464, 1, 19645, 4, 3932, 214, 36, 3, 3, 436, 6, 23, 15, 17, 642, 8, 110, 2, 21, 66, 3, 1,
  186, 87, 874, 1, 25, 1, 31, 1, 25, 1, 31, 1, 25, 1, 31, 1, 25, 1, 31, 1, 25, 1, 2875, 1, 3056,
  2, 270, 44, 4, 100, 12, 15, 2, 15, 1, 15, 1, 37, 21, 5, 31, 1, 58, 6, 61, 1, 178, 6, 154, 985,
  3, 17, 3, 13, 3, 218, 6, 12, 4, 1, 15, 12, 4, 56, 8, 10, 6, 40, 8, 30, 2, 12, 4, 2, 14, 9, 39,
  344, 8, 14, 2, 13, 3, 11, 3, 57, 1, 1, 4, 16, 2, 12, 4, 10, 7, 147, 1, 92, 10, 1, 1027, 2,
  65534, 2, 65534, 2, 65534, 2, 65534, 2, 65534, 2, 65534, 2, 65534, 2, 65534, 2, 65534, 2,
  65534, 2, 65534, 2, 65534, 258, 240, 3600, 61438, 2, 65534, 2, 65534, 2]

/-- Code points of the bidirectional classes B, S and WS, and of those that set directions. -/
def controlStretches : List Nat := [
  9, 5, 14, 5, 100, 1, 5626, 1, 2431, 11, 29, 7, 48, 1, 6, 4, 3990, 1]

/-- Marks that have a direction of their own, as letters from the left. -/
def leftMarks : List Nat := [0x0CBF, 0x0CC6, 0x11A07, 0x11A08, 0x11C3F]

/-- The direction of a character; letters run from the left unless listed. -/
def direction (c : Char) : Direction :=
  let isIn (stretches : List Nat) : Bool := Stretches.contains stretches c.toNat
  if isIn fromRightStretches then .fromRight
  else if isIn arabicNumberStretches then .arabicNumber
  else if isIn numberStretches then .number
  else if isIn neutralStretches then .neutral
  else if isIn controlStretches then .control
  else if isNonspacing c && !leftMarks.contains c.toNat then .mark
  else .fromLeft

end LeagueWager.Text
