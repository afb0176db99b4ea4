import LeagueWager.Json.Chars
import LeagueWager.Json.Numeral

/-!
# Reading a JSON text

`Tree.ofText` reads a whole text: a value, and nothing behind it but blanks. The readers of
values, elements and members are bounded by a count that the length of the text always covers:
each of them passes a character before it comes back to itself, or hands on to one that does.
-/

namespace LeagueWager.Json

/-- The characters that may stand between the parts of a text. -/
def isGap (c : Char) : Bool := c == ' ' || c == '\n' || c == '\t' || c == '\r'

/-- The text behind the gap in front of it. -/
def skipGap (cs : List Char) : List Char := cs.dropWhile isGap

/-- A word that has to go on with these letters. -/
def word (value : Tree) : List Char → List Char → Tree × List Char
  | [], cs => (value, cs)
  | _ :: _, [] => (.bad .endInValue .endInValue, [])
  | l :: ls, c :: cs =>
    if c = l then word value ls cs else (.bad .expectedIdent .expectedIdent, [])

mutual

/-- The value at the start of the text, and what follows it. -/
def value : Nat → List Char → Tree × List Char
  | 0, _ => (.missing, [])
  | n + 1, cs =>
    match skipGap cs with
    | [] => (.missing, [])
    | c :: rest =>
      if c = '\x22' then
        match chars rest with
        | .whole text rest => (.text text, rest)
        | .broken read skipped => (.badText read skipped, [])
      else if c = '[' then
        match skipGap rest with
        | [] => (.list [] .ended, [])
        | c :: after =>
          if c = ']' then (.list [] .closed, after)
          else
            let (items, stop, rest) := elements n (c :: after)
            (.list items stop, rest)
      else if c = '\x7b' then
        match skipGap rest with
        | [] => (.object [] .ended, [])
        | c :: after =>
          if c = '\x7d' then (.object [] .closed, after)
          else if c = '\x22' then
            let (members, stop, rest) := fields n after
            (.object members stop, rest)
          else (.object [] (.noKey (value n (c :: after)).1), [])
      else if c = 'n' then word .null ['u', 'l', 'l'] rest
      else if c = 't' then word (.bool true) ['r', 'u', 'e'] rest
      else if c = 'f' then word (.bool false) ['a', 'l', 's', 'e'] rest
      else if c = '-' then numeralTail true rest
      else if c.isDigit then numeralTail false (c :: rest)
      else (.bad .expectedValue .expectedValue, [])

/-- The elements of a list from one on, how the list ends, and what follows it. -/
def elements : Nat → List Char → List Tree × ListStop × List Char
  | 0, _ => ([], .ended, [])
  | n + 1, cs =>
    let (item, rest) := value n cs
    match skipGap rest with
    | [] => ([item], .ended, [])
    | c :: rest =>
      if c = ']' then ([item], .closed, rest)
      else if c = ',' then
        match skipGap rest with
        | [] => ([item], .commaEnded, [])
        | c :: after =>
          if c = ']' then ([item], .commaClosed, [])
          else
            let (items, stop, rest) := elements n (c :: after)
            (item :: items, stop, rest)
      else ([item], .other, [])

/-- The members of an object from behind the opening quote of a key, how the object ends, and what
follows it. -/
def fields : Nat → List Char →
    List (Except Fault String × Tree) × ObjectStop Tree × List Char
  | 0, _ => ([], .ended, [])
  | n + 1, cs =>
    match chars cs with
    | .broken read skipped => ([], .badKey read skipped, [])
    | .whole key rest =>
      match skipGap rest with
      | [] => ([], .noColon key true, [])
      | c :: rest =>
        if c = ':' then
          let (member, rest) := value n rest
          match skipGap rest with
          | [] => ([(key, member)], .ended, [])
          | c :: rest =>
            if c = '\x7d' then ([(key, member)], .closed, rest)
            else if c = ',' then
              match skipGap rest with
              | [] => ([(key, member)], .commaEnded, [])
              | c :: after =>
                if c = '\x22' then
                  let (members, stop, rest) := fields n after
                  ((key, member) :: members, stop, rest)
                else if c = '\x7d' then ([(key, member)], .commaClosed, [])
                else ([(key, member)], .commaOther, [])
            else ([(key, member)], .other, [])
        else ([], .noColon key false, [])

end

/-- What a text says, and what is behind its value. -/
def Tree.ofText (s : String) : Tree × List Char :=
  let cs := s.toList
  let (tree, rest) := value (2 * cs.length + 2) cs
  (tree, skipGap rest)

end LeagueWager.Json
