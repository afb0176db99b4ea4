import LeagueWager.Toml.Literal

/-!
# A TOML document

A document is a list of sections, each under its header; the first has none. `document?` reads the
sections and puts each into its place.
-/

namespace LeagueWager.Toml

/-- A part of a document under one header. -/
structure Section where
  /-- The way to the table and its name; nothing for the document itself. -/
  header : Option Name
  /-- The header may be given again, for another table of the same name. -/
  repeats : Bool
  entries : List (Name × Value)

/-- The header behind its first bracket, and what follows its line. -/
def header? (cs : List Char) : Option (Section × List Char) :=
  match cs with
  | '[' :: cs => do
    let (name, rest) ← name? cs
    let rest ← behind? ']' rest
    let rest ← behind? ']' rest
    let rest ← endLine? rest
    some (⟨some name, true, []⟩, rest)
  | cs => do
    let (name, rest) ← name? cs
    let rest ← behind? ']' rest
    let rest ← endLine? rest
    some (⟨some name, false, []⟩, rest)

/-- The sections of the lines that follow, when one is already begun. -/
def sections? : Nat → Section → List Char → Option (List Section)
  | 0, _, _ => none
  | n + 1, begun, cs =>
    match skipBlanks cs with
    | [] => some [begun]
    | c :: rest =>
      if c = '#' ∨ c = '\n' ∨ c = '\r' then do
        let rest ← endLine? (c :: rest)
        sections? n begun rest
      else if c = '[' then do
        let (next, rest) ← header? rest
        let sections ← sections? n next rest
        some (begun :: sections)
      else do
        let (name, rest) ← name? (c :: rest)
        let rest ← behind? '=' rest
        let (value, rest) ← value? (2 * rest.length + 2) (depthLimit - 1) (skipBlanks rest)
        let rest ← endLine? rest
        sections? n { begun with entries := begun.entries ++ [(name, value)] } rest

/-- Puts a section into its place in the document. A header may open a table that was only
implied, with what is below it; such a table moves to the end. -/
def Section.place (s : Section) (document : Entries) : Option Entries :=
  match s.header with
  | none => defineAll .opened s.entries document
  | some ⟨way, name⟩ =>
    reach false (fun _ entries =>
      if s.repeats then do
        let table ← defineAll .opened s.entries []
        match entries.lookup name with
        | none => some (entries ++ [(name, .tables [table])])
        | some (.tables items) => some (replace name (.tables (items ++ [table])) entries)
        | some _ => none
      else
        match entries.lookup name with
        | none => do
          let table ← defineAll .opened s.entries []
          some (entries ++ [(name, .table .opened table)])
        | some (.table .implied below) => do
          -- the table takes its place in the order of the headers
          let table ← defineAll .opened s.entries below
          some (remove name entries ++ [(name, .table .opened table)])
        | some _ => none) way .opened document

/-- Puts sections into their places, one after the other. -/
def placeAll : List Section → Entries → Option Entries
  | [], document => some document
  | s :: rest, document => do
    let document ← s.place document
    placeAll rest document

/-- The document that a text says; nothing if it is not TOML. A byte order mark in front does not
count. -/
def document? (s : String) : Option Entries := do
  let cs := match s.toList with
    | c :: rest => if c.toNat = 0xFEFF then rest else c :: rest
    | [] => []
  let sections ← sections? (cs.length + 1) ⟨none, false, []⟩ cs
  placeAll sections []

end LeagueWager.Toml
