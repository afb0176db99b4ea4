import LeagueWager.Json.Fault

/-!
# What a JSON text says

A text is read once, into a tree, up to where it stops being JSON. A record is then decoded from
the tree in the order of the text, so that whichever comes first is reported: a value that does
not fit, or the place where the text breaks off.

Two readers meet the same text differently. One *reads* a value it has a use for, another *skips*
a value that no field asks for, and is content with less: it does not join surrogates nor ask for
a number's size. Where their faults differ, the tree holds both.

* `Tree.skip`: the first fault that skipping the value meets, if any.
-/

namespace LeagueWager.Json

/-- A number: whole numbers that fit 64 bits, with or without sign, are exact. -/
inductive Number where
  | whole (value : Int)
  | real (value : Float)

/-- What follows the last element of a list. -/
inductive ListStop where
  /-- The closing bracket. -/
  | closed
  /-- Nothing: the text ends. -/
  | ended
  /-- A comma and the closing bracket. -/
  | commaClosed
  /-- A comma, then the text ends. -/
  | commaEnded
  /-- Something else. -/
  | other
  deriving DecidableEq, Repr

/-- What follows the last member of an object; `τ` is the type of trees. -/
inductive ObjectStop (τ : Type) where
  /-- The closing brace. -/
  | closed
  /-- Nothing: the text ends. -/
  | ended
  /-- A comma and the closing brace. -/
  | commaClosed
  /-- A comma, then the text ends. -/
  | commaEnded
  /-- A comma and something that is no key. -/
  | commaOther
  /-- Something that is neither comma nor brace, behind a member. -/
  | other
  /-- Something that is no key, in the first place. -/
  | noKey (found : τ)
  /-- A key that breaks off. -/
  | badKey (read skipped : Fault)
  /-- A key without a colon; `atEnd` if the text ends there. -/
  | noColon (key : Except Fault String) (atEnd : Bool)

/-- What a text says, from the start of a value to its end or to where the text breaks off. -/
inductive Tree where
  | null
  | bool (value : Bool)
  | number (value : Except Fault Number)
  | text (value : Except Fault String)
  | list (items : List Tree) (stop : ListStop)
  | object (members : List (Except Fault String × Tree)) (stop : ObjectStop Tree)
  /-- The text ends where a value is due. -/
  | missing
  /-- A string that breaks off. -/
  | badText (read skipped : Fault)
  /-- Anything else that is no value. -/
  | bad (read skipped : Fault)

/-- What reading a list to its end meets there. -/
def ListStop.read : ListStop → Except Fault Unit
  | .closed => .ok ()
  | .ended => .error .endInList
  | .commaClosed => .error .trailingComma
  | .commaEnded => .error .endInValue
  | .other => .error .expectedListCommaOrEnd

/-- What is met behind the last element that a list of fixed length has a place for. -/
def ListStop.close : ListStop → Except Fault Unit
  | .closed => .ok ()
  | .ended => .error .endInList
  | .commaClosed => .error .trailingComma
  | .commaEnded => .error .trailingCharacters
  | .other => .error .trailingCharacters

/-- What skipping a list meets at its end. -/
def ListStop.skip : ListStop → Except Fault Unit
  | .closed => .ok ()
  | .ended => .error .endInList
  | .commaClosed => .error .expectedValue
  | .commaEnded => .error .endInValue
  | .other => .error .expectedListCommaOrEnd

/-- What reading an object to its end meets there. -/
def ObjectStop.read {τ : Type} : ObjectStop τ → Except Fault Unit
  | .closed => .ok ()
  | .ended => .error .endInObject
  | .commaClosed => .error .trailingComma
  | .commaEnded => .error .endInValue
  | .commaOther => .error .keyNotString
  | .other => .error .expectedObjectCommaOrEnd
  | .noKey _ => .error .keyNotString
  | .badKey read _ => .error read
  | .noColon (.error fault) _ => .error fault
  | .noColon (.ok _) atEnd => .error (if atEnd then .endInObject else .expectedColon)

/-- What skipping an object meets at its end. -/
def ObjectStop.skip {τ : Type} : ObjectStop τ → Except Fault Unit
  | .closed => .ok ()
  | .ended => .error .endInObject
  | .commaClosed => .error .keyNotString
  | .commaEnded => .error .endInObject
  | .commaOther => .error .keyNotString
  | .other => .error .expectedObjectCommaOrEnd
  | .noKey _ => .error .keyNotString
  | .badKey _ skipped => .error skipped
  | .noColon _ atEnd => .error (if atEnd then .endInObject else .expectedColon)

mutual

/-- What skipping a value meets. -/
def Tree.skip : Tree → Except Fault Unit
  | .null => .ok ()
  | .bool _ => .ok ()
  | .number _ => .ok ()
  | .text _ => .ok ()
  | .list items stop => do
    skipItems items
    stop.skip
  | .object members stop => do
    skipMembers members
    stop.skip
  | .missing => .error .endInValue
  | .badText _ skipped => .error skipped
  | .bad _ skipped => .error skipped

/-- What skipping the elements of a list meets. -/
def skipItems : List Tree → Except Fault Unit
  | [] => .ok ()
  | item :: items => do
    item.skip
    skipItems items

/-- What skipping the members of an object meets. -/
def skipMembers : List (Except Fault String × Tree) → Except Fault Unit
  | [] => .ok ()
  | (_, value) :: members => do
    value.skip
    skipMembers members

end

end LeagueWager.Json
