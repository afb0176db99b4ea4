import LeagueWager.Toml.Value

/-!
# Building tables

A table is filled line by line. A line names the way from a table to one below it, and the way
makes what is not there yet.
-/

namespace LeagueWager.Toml

/-- A name in a table below: the way to the table, and the name there. -/
structure Name where
  way : List String
  last : String
  deriving DecidableEq, Repr

/-- The table with a value in place of the one under a name. -/
def replace (name : String) (value : Value) (entries : Entries) : Entries :=
  entries.map fun (n, v) => (n, if n = name then value else v)

/-- The table without a name. -/
def remove (name : String) (entries : Entries) : Entries :=
  entries.filter fun (n, _) => n ≠ name

/-- Changes the table at the end of a way. Steps that are not there yet are made. No way leads
through a closed table, dotted names lead through no table with a header, and where there are
several tables the way leads through the last. -/
def reach (isDotted : Bool) (change : Origin → Entries → Option Entries) :
    List String → Origin → Entries → Option Entries
  | [], origin, entries => change origin entries
  | step :: way, _, entries =>
    match entries.lookup step with
    | none => do
      let made : Origin := if isDotted then .dotted else .implied
      let below ← reach isDotted change way made []
      some (entries ++ [(step, .table made below)])
    | some (.table origin below) =>
      if origin = .inline ∨ (isDotted = true ∧ origin = .opened) then none
      else do
        let below ← reach isDotted change way origin below
        some (replace step (.table origin below) entries)
    | some (.tables items) => do
      let last ← items.getLast?
      let below ← reach isDotted change way .opened last
      some (replace step (.tables (items.dropLast ++ [below])) entries)
    | some _ => none

/-- Gives a value to a name in a table. The name must be new; a dotted name adds to no table but
those that dotted names have made. -/
def define (name : Name) (value : Value) : Origin → Entries → Option Entries :=
  reach true (fun origin entries =>
    if (origin = .dotted ↔ name.way = []) ∨ (entries.lookup name.last).isSome then none
    else some (entries ++ [(name.last, value)])) name.way

/-- Gives values to names, one after the other. -/
def defineAll (origin : Origin) : List (Name × Value) → Entries → Option Entries
  | [], entries => some entries
  | (name, value) :: rest, entries => do
    let entries ← define name value origin entries
    defineAll origin rest entries

end LeagueWager.Toml
