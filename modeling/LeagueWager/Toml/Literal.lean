import LeagueWager.Toml.Chars
import LeagueWager.Toml.Numeral
import LeagueWager.Toml.Table

/-!
# Names and values as they are written

A name has one part or several, with dots between them. A list may run over several lines, with
comments in it; a table between braces stands on one. The readers of values are bounded by a count
that the length of the text always covers, and values may stand inside each other to a fixed depth
only.
-/

namespace LeagueWager.Toml

/-- Parts of a name, and values inside each other, are fewer than this. -/
def depthLimit : Nat := 80

/-- The character may stand in a name without quotes. -/
def isBare (c : Char) : Bool := c.isAlphanum || c == '_' || c == '-'

/-- One part of a name. -/
def part? : List Char → Option (String × List Char)
  | [] => none
  | c :: rest =>
    if c = '\x22' ∨ c = '\'' then short? c rest
    else
      let name := (c :: rest).takeWhile isBare
      if name.isEmpty then none
      else some (String.ofList name, (c :: rest).drop name.length)

/-- The parts of a name, with blanks around each. -/
def parts? : Nat → List Char → Option (List String × List Char)
  | 0, _ => none
  | n + 1, cs => do
    let (part, rest) ← part? (skipBlanks cs)
    match skipBlanks rest with
    | '.' :: rest => do
      let (parts, rest) ← parts? n rest
      some (part :: parts, rest)
    | rest => some ([part], rest)

/-- A name of several parts: the way to a table, and the name there. -/
def name? (cs : List Char) : Option (Name × List Char) := do
  let (parts, rest) ← parts? (depthLimit - 1) cs
  match parts.reverse with
  | last :: way => some (⟨way.reverse, last⟩, rest)
  | [] => none

/-- The text behind blanks, comments and line breaks. -/
def skipGap : Nat → List Char → Option (List Char)
  | 0, _ => none
  | n + 1, cs =>
    match skipBlanks cs with
    | [] => some []
    | c :: rest =>
      if c = '#' then do
        let rest ← lineBreak? (skipComment rest)
        skipGap n rest
      else if c = '\n' ∨ c = '\r' then do
        let rest ← lineBreak? (c :: rest)
        skipGap n rest
      else some (c :: rest)

/-- The text behind a word that has to go on with these letters. -/
def word? : List Char → List Char → Option (List Char)
  | [], cs => some cs
  | l :: ls, cs => do
    let rest ← behind? l cs
    word? ls rest

mutual

/-- The value at the start of the text, and what follows it; `depth` lists and tables may still
stand inside each other. -/
def value? : Nat → Nat → List Char → Option (Value × List Char)
  | 0, _, _ => none
  | n + 1, depth, cs =>
    match cs with
    | [] => none
    | c :: rest =>
      if c = '\x22' ∨ c = '\'' then do
        let (s, rest) ← string? c rest
        some (.text s, rest)
      else if c = '[' then
        match depth with
        | 0 => none
        | depth + 1 => do
          let (items, rest) ← items? n depth rest
          some (.list items, rest)
      else if c = '\x7b' then
        match depth with
        | 0 => none
        | depth + 1 => do
          let (pairs, rest) ← pairs? n depth rest
          let entries ← defineAll .inline pairs []
          some (.table .inline entries, rest)
      else if c = 't' then do
        let rest ← word? ['r', 'u', 'e'] rest
        some (.bool true, rest)
      else if c = 'f' then do
        let rest ← word? ['a', 'l', 's', 'e'] rest
        some (.bool false, rest)
      else
        match date? (c :: rest) with
        | some rest => some (.date, rest)
        | none => number? (c :: rest)

/-- The elements of a list up to its closing bracket, and what follows that. A comma may stand
behind the last. -/
def items? : Nat → Nat → List Char → Option (List Value × List Char)
  | 0, _, _ => none
  | n + 1, depth, cs => do
    let cs ← skipGap (cs.length + 1) cs
    match cs with
    | ']' :: rest => some ([], rest)
    | cs => do
      let (item, rest) ← value? n depth cs
      let rest ← skipGap (rest.length + 1) rest
      match rest with
      | ']' :: rest => some ([item], rest)
      | ',' :: rest => do
        let (items, rest) ← items? n depth rest
        some (item :: items, rest)
      | _ => none

/-- The entries of a table between braces up to the closing one, and what follows that. -/
def pairs? : Nat → Nat → List Char → Option (List (Name × Value) × List Char)
  | 0, _, _ => none
  | n + 1, depth, cs =>
    match skipBlanks cs with
    | '\x7d' :: rest => some ([], rest)
    | cs => morePairs? n depth cs

/-- The entries of a table between braces from one on. -/
def morePairs? : Nat → Nat → List Char →
    Option (List (Name × Value) × List Char)
  | 0, _, _ => none
  | n + 1, depth, cs => do
    let (name, rest) ← name? cs
    let rest ← behind? '=' rest
    let (value, rest) ← value? n depth (skipBlanks rest)
    match skipBlanks rest with
    | '\x7d' :: rest => some ([(name, value)], rest)
    | ',' :: rest => do
      let (pairs, rest) ← morePairs? n depth rest
      some ((name, value) :: pairs, rest)
    | _ => none

end

end LeagueWager.Toml
