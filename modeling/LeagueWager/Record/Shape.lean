import LeagueWager.Record.Mismatch

/-!
# The shape of a record

A record type is described field by field: a name, a reader of the field's value, and what holds
when the field is not there. One description serves every document format: `σ` is the format's
type of values and `ε` its type of errors. The same description reads fields by name, in whatever
order they come (`put`, then `finish`), and by position (`ofItems`).
-/

namespace LeagueWager

/-- What holds when a field is not given. -/
inductive Presence (α : Type) where
  /-- It has to be there. -/
  | required
  /-- It has this value. -/
  | default (value : α)
  /-- It has this value where fields are named; among fields by position it has to be there. -/
  | named (value : α)

/-- The value of a field that is not among named fields. -/
def Presence.unnamed? {α : Type} : Presence α → Option α
  | .required => none
  | .default value => some value
  | .named value => some value

/-- The value of a field behind the last position given. -/
def Presence.unplaced? {α : Type} : Presence α → Option α
  | .required => none
  | .default value => some value
  | .named _ => none

/-- A record type `ρ`, field by field in the order of declaration. -/
inductive Shape (σ ε : Type) : Type → Type 1 where
  /-- A record without fields, or what builds one from the fields that follow. -/
  | make {ρ : Type} (record : ρ) : Shape σ ε ρ
  /-- One more field. -/
  | field {α ρ : Type} (before : Shape σ ε (α → ρ)) (name : String)
      (read : σ → Except ε α) (presence : Presence α) : Shape σ ε ρ

namespace Shape

variable {σ ε : Type}

/-- The names of the fields. -/
def names : {ρ : Type} → Shape σ ε ρ → List String
  | _, .make _ => []
  | _, .field before name _ _ => before.names ++ [name]

/-- What is expected of a list that has to hold the fields of the record of this name. -/
def listing {ρ : Type} (shape : Shape σ ε ρ) (kind : String) : String :=
  let count := shape.names.length
  if count = 1 then s!"struct {kind} with 1 element" else s!"struct {kind} with {count} elements"

/-- A record in the making: a slot for each field. -/
@[reducible] def Draft : {ρ : Type} → Shape σ ε ρ → Type
  | _, .make _ => Unit
  | _, .field (α := α) before _ _ _ => before.Draft × Option α

/-- The draft in which no field is filled. -/
def blank : {ρ : Type} → (shape : Shape σ ε ρ) → shape.Draft
  | _, .make _ => ()
  | _, .field before _ _ _ => (before.blank, none)

/-- Whether the named field is filled; nothing if there is no such field. -/
def filled? : {ρ : Type} → (shape : Shape σ ε ρ) → shape.Draft → String → Option Bool
  | _, .make _, _, _ => none
  | _, .field before name _ _, draft, key =>
    if key = name then some draft.2.isSome else before.filled? draft.1 key

/-- Reads the named field's value into its slot. -/
def put : {ρ : Type} → (shape : Shape σ ε ρ) → shape.Draft → String → σ → Except ε shape.Draft
  | _, .make _, draft, _, _ => .ok draft
  | _, .field before name read _, draft, key, value =>
    if key = name then (read value).map fun a => (draft.1, some a)
    else (before.put draft.1 key value).map fun rest => (rest, draft.2)

/-- The record of a draft. The first field in the order of declaration that is neither filled nor
has a value of its own is missing. -/
def finish : {ρ : Type} → (shape : Shape σ ε ρ) → shape.Draft → Except Mismatch ρ
  | _, .make record, _ => .ok record
  | _, .field before name _ presence, draft => do
    let record ← before.finish draft.1
    match draft.2.or presence.unnamed? with
    | some a => .ok (record a)
    | none => .error (.missingField name)

/-- The record whose fields stand in a list, in order, with the elements that are left. `ended` is
what holds where the list ends before the fields do. The length of a list that is too short is
that of the fields before the first one missing. -/
def ofItems (ended : Except ε Unit) (short : Nat → ε) :
    {ρ : Type} → Shape σ ε ρ → List σ → Except ε (ρ × Nat × List σ)
  | _, .make record, items => .ok (record, 0, items)
  | _, .field before _ read presence, items => do
    let (record, place, items) ← before.ofItems ended short items
    match items with
    | item :: items => do
      let a ← read item
      .ok (record a, place + 1, items)
    | [] => do
      ended
      match presence.unplaced? with
      | some a => .ok (record a, place + 1, [])
      | none => .error (short place)

end Shape

end LeagueWager
