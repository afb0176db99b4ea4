import LeagueWager.Json.Reader

/-!
# Writing JSON

A value is written without blanks. In a string, quotes, backslashes and control characters are
escaped, nothing else.

* `Value.toTree`: what the written text says.
-/

namespace LeagueWager.Json

/-- A value to be written. -/
inductive Value where
  | null
  | bool (value : Bool)
  | whole (value : Int)
  | text (value : String)
  | list (items : List Value)
  | object (members : List (String × Value))

/-- A character inside a written string. -/
def escape (c : Char) : List Char :=
  if c = '\x22' then ['\\', '\x22']
  else if c = '\\' then ['\\', '\\']
  else if c = '\x08' then ['\\', 'b']
  else if c = '\t' then ['\\', 't']
  else if c = '\n' then ['\\', 'n']
  else if c = '\x0c' then ['\\', 'f']
  else if c = '\r' then ['\\', 'r']
  else if c.toNat < 32 then
    ['\\', 'u', '0', '0', Text.hexDigit (c.toNat / 16), Text.hexDigit (c.toNat % 16)]
  else [c]

/-- A written string. -/
def writeText (s : String) : List Char := '\x22' :: s.toList.flatMap escape ++ ['\x22']

/-- A written whole number. -/
def writeWhole (n : Int) : List Char :=
  if n < 0 then '-' :: Nat.toDigits 10 n.natAbs else Nat.toDigits 10 n.natAbs

mutual

/-- The written form of a value, in front of `rest`. -/
def Value.write : Value → List Char → List Char
  | .null, rest => 'n' :: 'u' :: 'l' :: 'l' :: rest
  | .bool true, rest => 't' :: 'r' :: 'u' :: 'e' :: rest
  | .bool false, rest => 'f' :: 'a' :: 'l' :: 's' :: 'e' :: rest
  | .whole n, rest => writeWhole n ++ rest
  | .text s, rest => writeText s ++ rest
  | .list items, rest => '[' :: writeItems items (']' :: rest)
  | .object members, rest => '\x7b' :: writeMembers members ('\x7d' :: rest)

/-- The written elements of a list, in front of `rest`. -/
def writeItems : List Value → List Char → List Char
  | [], rest => rest
  | [item], rest => item.write rest
  | item :: items, rest => item.write (',' :: writeItems items rest)

/-- The written members of an object, in front of `rest`. -/
def writeMembers : List (String × Value) → List Char → List Char
  | [], rest => rest
  | [(name, value)], rest => writeText name ++ ':' :: value.write rest
  | (name, value) :: members, rest =>
    writeText name ++ ':' :: value.write (',' :: writeMembers members rest)

end

/-- The written form of a value. -/
def Value.render (v : Value) : String := String.ofList (v.write [])

mutual

/-- What the written form says. -/
def Value.toTree : Value → Tree
  | .null => .null
  | .bool value => .bool value
  | .whole value => .number (.ok (.whole value))
  | .text value => .text (.ok value)
  | .list items => .list (itemTrees items) .closed
  | .object members => .object (memberTrees members) .closed

/-- What the written elements say. -/
def itemTrees : List Value → List Tree
  | [] => []
  | item :: items => item.toTree :: itemTrees items

/-- What the written members say. -/
def memberTrees : List (String × Value) → List (Except Fault String × Tree)
  | [] => []
  | (name, value) :: members => (.ok name, value.toTree) :: memberTrees members

end

/-- A value, or null. -/
def Value.ofOption {α : Type} (write : α → Value) : Option α → Value
  | some a => write a
  | none => .null

end LeagueWager.Json
