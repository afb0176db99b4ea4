/-!
# A set of code points as stretches

A property of characters holds on runs of code points. It is stored as the lengths of the
stretches outside and inside the property, in turn, starting outside at zero; past the last
stretch it does not hold.
-/

namespace LeagueWager.Text.Stretches

mutual

/-- Whether the code point `n`, counted from the start of a stretch outside, is in the property. -/
def contains : List Nat → Nat → Bool
  | [], _ => false
  | gap :: rest, n => if n < gap then false else within rest (n - gap)

/-- Whether the code point `n`, counted from the start of a stretch inside, is in the property. -/
def within : List Nat → Nat → Bool
  | [], _ => false
  | run :: rest, n => if n < run then true else contains rest (n - run)

end

end LeagueWager.Text.Stretches
