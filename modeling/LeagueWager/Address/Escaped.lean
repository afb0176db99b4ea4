import LeagueWager.Text.Digits

/-!
# Escapes in addresses

A character that may not stand in a part of an address is written as the bytes of its UTF-8 form,
each behind a percent sign in base sixteen. Each part has its own set of such characters.
-/

namespace LeagueWager.Address

/-- Control characters, and everything beyond ASCII. -/
def isControl (c : Char) : Bool := c.toNat < 32 || 126 < c.toNat

/-- Characters that may not stand in a fragment. -/
def badInFragment (c : Char) : Bool :=
  isControl c || c == ' ' || c == '\x22' || c == '<' || c == '>' || c == '\x60'

/-- Characters that may not stand in a path. -/
def badInPath (c : Char) : Bool :=
  badInFragment c || c == '#' || c == '?' || c == '\x7b' || c == '\x7d'

/-- Characters that may not stand in the name of a user or in a password. -/
def badInUser (c : Char) : Bool :=
  badInPath c || ['/', ':', ';', '=', '@', '[', '\\', ']', '^', '|'].contains c

/-- Characters that may not stand in a query. -/
def badInQuery (isSpecial : Bool) (c : Char) : Bool :=
  isControl c || c == ' ' || c == '\x22' || c == '#' || c == '<' || c == '>'
    || (isSpecial && c == '\'')

/-- The escape of a byte. -/
def escapeByte (b : UInt8) : List Char :=
  ['%', Text.upperHexDigit (b.toNat / 16), Text.upperHexDigit (b.toNat % 16)]

/-- The text with its bad characters escaped. -/
def escape (bad : Char → Bool) (cs : List Char) : List Char :=
  cs.flatMap fun c => if bad c then (String.utf8EncodeChar c).flatMap escapeByte else [c]

/-- The bytes of a text in which escapes stand for bytes. -/
def unescape : List Char → List UInt8
  | '%' :: a :: b :: rest =>
    match Text.hexValue? a, Text.hexValue? b with
    | some m, some n => UInt8.ofNat (m * 16 + n) :: unescape rest
    | _, _ => String.utf8EncodeChar '%' ++ unescape (a :: b :: rest)
  | c :: rest => String.utf8EncodeChar c ++ unescape rest
  | [] => []
termination_by cs => cs.length

end LeagueWager.Address
