import LeagueWager.Decimal.Shortest
import LeagueWager.Record.Mismatch

/-!
# Values of a TOML document

A document is a table: names with values, in the order in which they were given. How a table came
about decides whether a later line may still add to it.
-/

namespace LeagueWager.Toml

/-- How a table came about. -/
inductive Origin where
  /-- As the value of a name, between braces: nothing is added to it. -/
  | inline
  /-- Under a header of its own. Only headers may add tables below it. -/
  | opened
  /-- As a step on the way to a table below it. A header may still open it. -/
  | implied
  /-- As a step of a dotted name. -/
  | dotted
  deriving DecidableEq, Repr

/-- A value. -/
inductive Value where
  | bool (value : Bool)
  | whole (value : Int)
  | real (value : Float)
  | text (value : String)
  /-- A date, a time, or both; nothing here asks which. -/
  | date
  | list (items : List Value)
  | table (origin : Origin) (entries : List (String × Value))
  /-- Tables under headers of the same name, in order. -/
  | tables (items : List (List (String × Value)))

/-- The entries of a table. -/
abbrev Entries := List (String × Value)

/-- How a value is named in a message. Numbers are written with all their places. -/
def Value.found : Value → Found
  | .bool value => .bool value
  | .whole value => .whole value
  | .real value => .real (Decimal.spell (fun _ => true) value)
  | .text value => .text value
  | .date => .map
  | .list _ => .list
  | .table _ _ => .map
  | .tables _ => .list

end LeagueWager.Toml
