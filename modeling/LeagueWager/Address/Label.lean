import LeagueWager.Address.Alphabet
import LeagueWager.Address.Punycode
import LeagueWager.Text.Composed
import LeagueWager.Text.Direction
import LeagueWager.Text.Joining

/-!
# Labels

A name is made of labels. A label beyond ASCII may be given in the letters of ASCII, behind a mark;
it is then the text that these stand for that has to be a label. A text is one if it reads as it is
written: no mark without a letter, no joiner where none is needed, and, in a name with letters that
run from the right, one direction.
-/

namespace LeagueWager.Address.Label

open Text (composed direction Direction)

/-- What stands in front of a label in the letters of ASCII. -/
def mark : List Char := ['x', 'n', '-', '-']

/-- The character is one of ASCII. -/
def isAscii (c : Char) : Bool := c.toNat < 128

/-- The text that a code stands for. It is beyond ASCII, in its composed form, and not in turn
behind a mark. -/
def decoded? (code : List Char) : Option (List Char) := do
  if code.isEmpty ∨ code.getLast? = some '-' ∨ 2000 < code.length ∨ !code.all isAscii then none
  else
    let text ← Punycode.decode? code
    if text.all isPlain && composed text == text && !mark.isPrefixOf text then some text else none

/-- The text that a label stands for. -/
def text? (label : List Char) : Option (List Char) :=
  if mark.isPrefixOf label then decoded? (label.drop mark.length) else some label

/-! ## Joiners -/

/-- A joiner: it joins the letters around it. -/
def joiner : Char := Char.ofNat 0x200D

/-- A parting joiner: it keeps letters apart that would join. -/
def nonJoiner : Char := Char.ofNat 0x200C

/-- The mark takes the vowel from a letter; either joiner may follow it. -/
def isVirama (c : Char) : Bool := Text.combiningClass c == 9

/-- Every joiner has something to do. The characters before come nearest first. -/
def joinersFit (before : List Char) : List Char → Bool
  | [] => true
  | c :: rest =>
    let parts := Text.meetsJoining Text.joinsNext before
      && Text.meetsJoining Text.joinsPrevious rest
    let fits := (c != joiner && c != nonJoiner) || before.head?.any isVirama
      || (c == nonJoiner && parts)
    fits && joinersFit (c :: before) rest

/-- The text may be a label. -/
def isSound (text : List Char) : Bool :=
  !text.head?.any Text.isMark && joinersFit [] text
    && (text.all isAscii || text.length ≤ 1000)

/-! ## Directions -/

/-- The text runs from the right, or holds numbers that belong to such texts. -/
def hasRightward (text : List Char) : Bool :=
  text.any fun c => direction c == .fromRight || direction c == .arabicNumber

/-- The text runs in one direction from end to end, marks behind it apart. -/
def isOneWay (text : List Char) : Bool :=
  match text.map direction with
  | [] => true
  | first :: rest =>
    let rest := rest.reverse.dropWhile (· == .mark)
    let holds (ends inside : List Direction) : Bool :=
      rest.head?.all ends.contains && (rest.drop 1).all (ends ++ inside).contains
    match first with
    | .fromLeft => holds [.fromLeft, .number] [.neutral, .mark]
    | .fromRight =>
      holds [.fromRight, .number, .arabicNumber] [.neutral, .mark]
        && !(rest.contains .number && rest.contains .arabicNumber)
    | _ => false

end LeagueWager.Address.Label
