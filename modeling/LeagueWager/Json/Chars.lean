import LeagueWager.Json.Tree
import LeagueWager.Text.Digits

/-!
# Strings of a JSON text

The body of a string is first cut into pieces: characters, and units of sixteen bits given in
base sixteen. The pieces are then joined to a text, two surrogates to one character. A surrogate
without its partner has no text, but a string that is skipped may hold one.
-/

namespace LeagueWager.Json

/-- A piece of a string's body. -/
inductive Piece where
  | char (c : Char)
  /-- A unit of sixteen bits. -/
  | unit (n : Nat)
  deriving DecidableEq, Repr

/-- How the body of a string ends. -/
inductive BodyEnd where
  /-- At its closing quote, followed by `rest`. -/
  | closed (rest : List Char)
  /-- With the text. -/
  | ended
  /-- At a control character. -/
  | control
  /-- At an escape that does not exist. -/
  | badEscape
  /-- At something other than four digits of a unit. -/
  | badUnit
  deriving DecidableEq, Repr

/-- The character that an escape of one letter stands for. -/
def escaped? (c : Char) : Option Char :=
  if c = '\x22' ∨ c = '\\' ∨ c = '/' then some c
  else if c = 'b' then some '\x08'
  else if c = 'f' then some '\x0c'
  else if c = 'n' then some '\n'
  else if c = 'r' then some '\r'
  else if c = 't' then some '\t'
  else none

/-- The unit that four digits stand for. -/
def unit? (a b c d : Char) : Option Nat := do
  let a ← Text.hexValue? a
  let b ← Text.hexValue? b
  let c ← Text.hexValue? c
  let d ← Text.hexValue? d
  some (((a * 16 + b) * 16 + c) * 16 + d)

/-- The pieces of a string's body, and its end. -/
def body : List Char → List Piece × BodyEnd
  | [] => ([], .ended)
  | c :: rest =>
    if c = '\x22' then ([], .closed rest)
    else if c = '\\' then
      match rest with
      | [] => ([], .ended)
      | e :: rest =>
        if e = 'u' then
          match rest with
          | h₁ :: h₂ :: h₃ :: h₄ :: rest =>
            match unit? h₁ h₂ h₃ h₄ with
            | some n =>
              let (pieces, stop) := body rest
              (.unit n :: pieces, stop)
            | none => ([], .badUnit)
          | few => ([], if (String.ofList few).utf8ByteSize < 4 then .ended else .badUnit)
        else
          match escaped? e with
          | some c =>
            let (pieces, stop) := body rest
            (.char c :: pieces, stop)
          | none => ([], .badEscape)
    else if c.toNat < 32 then ([], .control)
    else
      let (pieces, stop) := body rest
      (.char c :: pieces, stop)

/-- The fault of a body that has no closing quote. -/
def BodyEnd.fault? : BodyEnd → Option Fault
  | .closed _ => none
  | .ended => some .endInString
  | .control => some .controlCharacter
  | .badEscape => some .invalidEscape
  | .badUnit => some .invalidEscape

/-- The fault of a leading surrogate with nothing behind it but the end of the body. -/
def BodyEnd.dangling : BodyEnd → Fault
  | .ended => .endInString
  | .badUnit => .invalidEscape
  | _ => .endInHexEscape

/-- The unit is the first of a pair. -/
def isLeading (n : Nat) : Bool := 0xD800 ≤ n && n ≤ 0xDBFF

/-- The unit is the second of a pair. -/
def isTrailing (n : Nat) : Bool := 0xDC00 ≤ n && n ≤ 0xDFFF

/-- The pieces as characters. -/
def join (stop : BodyEnd) : List Piece → Except Fault (List Char)
  | [] => .ok []
  | .char c :: rest => (join stop rest).map (c :: ·)
  | .unit n :: rest =>
    if isTrailing n then .error .loneSurrogate
    else if isLeading n then
      match rest with
      | .unit m :: rest =>
        if isTrailing m then
          (join stop rest).map (Char.ofNat (0x10000 + (n - 0xD800) * 0x400 + (m - 0xDC00)) :: ·)
        else .error .loneSurrogate
      | .char _ :: _ => .error .endInHexEscape
      | [] => .error stop.dangling
    else (join stop rest).map (Char.ofNat n :: ·)

/-- What is read of a string behind its opening quote. -/
inductive Chars where
  /-- A whole string, and what follows it. -/
  | whole (text : Except Fault String) (rest : List Char)
  /-- A string that breaks off. -/
  | broken (read skipped : Fault)

/-- The string behind an opening quote. -/
def chars (cs : List Char) : Chars :=
  let (pieces, stop) := body cs
  let joined := join stop pieces
  match stop with
  | .closed rest => .whole (joined.map String.ofList) rest
  | stop =>
    let skipped := stop.fault?.getD .endInString
    match joined with
    | .error read => .broken read skipped
    | .ok _ => .broken skipped skipped

end LeagueWager.Json
