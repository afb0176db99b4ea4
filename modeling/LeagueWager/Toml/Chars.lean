import LeagueWager.Text.Digits

/-!
# Strings, blanks and comments of a TOML document

A string stands between single or double quotes, one a side, or three a side if it runs over
several lines. Between double quotes a backslash escapes; one at the end of a line drops all
blanks and line breaks up to the next character. A line break inside a string is a line feed, also
if a carriage return was in front of it.
-/

namespace LeagueWager.Toml

/-- The character separates parts of a line. -/
def isBlank (c : Char) : Bool := c == ' ' || c == '\t'

/-- The character may stand in strings and comments. -/
def isPlain (c : Char) : Bool := c == '\t' || (32 ≤ c.toNat && c.toNat != 127)

/-- The text behind the blanks in front of it. -/
def skipBlanks (cs : List Char) : List Char := cs.dropWhile isBlank

/-- The text behind a line break. -/
def lineBreak? : List Char → Option (List Char)
  | '\n' :: rest => some rest
  | '\r' :: '\n' :: rest => some rest
  | _ => none

/-- The text behind a comment. -/
def skipComment (cs : List Char) : List Char := cs.dropWhile isPlain

/-- The rest of a line that has nothing more to say: blanks, perhaps a comment, and the line break
or the end of the text. -/
def endLine? (cs : List Char) : Option (List Char) :=
  let cs := skipBlanks cs
  let cs := if cs.head? = some '#' then skipComment cs else cs
  if cs.isEmpty then some [] else lineBreak? cs

/-- How a string is written. -/
structure Quoting where
  quote : Char
  /-- Three quotes a side, over any number of lines. -/
  long : Bool
  deriving DecidableEq, Repr

/-- The quotes are double, so that a backslash escapes. -/
def Quoting.escapes (q : Quoting) : Bool := q.quote == '\x22'

/-- The character that an escape of one letter stands for. -/
def escaped? (c : Char) : Option Char :=
  if c = '\x22' ∨ c = '\\' then some c
  else if c = 'b' then some '\x08'
  else if c = 't' then some '\t'
  else if c = 'n' then some '\n'
  else if c = 'f' then some '\x0c'
  else if c = 'r' then some '\r'
  else none

/-- The character whose number the digits give in base sixteen. -/
def numbered? (ds : List Char) : Option Char :=
  let n := Text.ofDigits 16 ds
  if ds.all (Text.isDigitOf 16) && decide n.isValidChar then some (Char.ofNat n) else none

/-- One more character in front of what is read. -/
def push (c : Char) (read : Option (List Char × List Char)) : Option (List Char × List Char) :=
  read.map fun (cs, rest) => (c :: cs, rest)

/-- The end of a long string behind its first three closing quotes: up to two quotes in front of
the closing ones belong to the string. -/
def closeLong (quote : Char) : List Char → Option (List Char × List Char)
  | a :: b :: c :: rest =>
    if a ≠ quote then some ([], a :: b :: c :: rest)
    else if b ≠ quote then some ([quote], b :: c :: rest)
    else if c ≠ quote then some ([quote, quote], c :: rest)
    else none
  | few =>
    let extra := few.takeWhile (· == quote)
    some (extra, few.drop extra.length)

/-- The characters of a string behind its opening quotes, and what follows its closing ones.
`trimming` is set behind a backslash at the end of a line, for as long as blanks are dropped. -/
def body (q : Quoting) : Bool → List Char → Option (List Char × List Char)
  | _, [] => none
  | trimming, c :: rest =>
    if c = '\r' then
      -- only as part of a line break, where the line feed speaks for both
      if q.long && rest.head? == some '\n' then body q trimming rest else none
    else if c = '\n' then
      if q.long then
        if trimming then body q true rest else push c (body q false rest)
      else none
    else if trimming && isBlank c then body q true rest
    else if c = q.quote then
      if q.long then
        match rest with
        | d :: e :: after =>
          if d = q.quote ∧ e = q.quote then closeLong q.quote after
          else push c (body q false rest)
        | _ => none
      else some ([], rest)
    else if q.escapes && c == '\\' then
      if q.long && (lineBreak? (skipBlanks rest)).isSome then body q true rest
      else
        match rest with
        | [] => none
        | e :: rest =>
          if e = 'u' then
            match rest with
            | d₁ :: d₂ :: d₃ :: d₄ :: rest => do
              let c ← numbered? [d₁, d₂, d₃, d₄]
              push c (body q false rest)
            | _ => none
          else if e = 'U' then
            match rest with
            | d₁ :: d₂ :: d₃ :: d₄ :: d₅ :: d₆ :: d₇ :: d₈ :: rest => do
              let c ← numbered? [d₁, d₂, d₃, d₄, d₅, d₆, d₇, d₈]
              push c (body q false rest)
            | _ => none
          else do
            let c ← escaped? e
            push c (body q false rest)
    else if isPlain c then push c (body q false rest)
    else none

/-- A string between one quote a side, behind the opening one. -/
def short? (quote : Char) (cs : List Char) : Option (String × List Char) := do
  let (cs, rest) ← body ⟨quote, false⟩ false cs
  some (String.ofList cs, rest)

/-- A string between three quotes a side, behind the opening ones. A line break right there does
not count. -/
def long? (quote : Char) (cs : List Char) : Option (String × List Char) := do
  let (cs, rest) ← body ⟨quote, true⟩ false ((lineBreak? cs).getD cs)
  some (String.ofList cs, rest)

/-- A string of either kind, behind its first quote. -/
def string? (quote : Char) : List Char → Option (String × List Char)
  | c :: d :: rest =>
    if c = quote ∧ d = quote then long? quote rest else short? quote (c :: d :: rest)
  | cs => short? quote cs

end LeagueWager.Toml
