import LeagueWager.Record.Shape
import LeagueWager.Toml.Document

/-!
# Decoding records from a TOML document

Readers of values. A record is given by a table of named fields or by a list of its fields in
order; other names and further elements are left alone. Fields are read in the order of the
document, and the first that does not fit is the error; then the first field missing.
-/

namespace LeagueWager.Toml

/-- Why a text does not decode. -/
inductive DecodeError where
  /-- The text is not TOML. -/
  | malformed
  /-- A value gives no name where one of a list of names is due. -/
  | nameless
  /-- A value does not fit. -/
  | mismatch (mismatch : Mismatch)
  deriving DecidableEq, Repr

/-- What is reported of a text that does not decode. -/
def DecodeError.message : DecodeError → String
  | .malformed => "TOML syntax error"
  | .nameless => "TOML syntax error"
  | .mismatch m => m.message

/-- The outcome of a reader. -/
abbrev Decoded (α : Type) := Except DecodeError α

/-- A reader of values. -/
abbrev Decoder (α : Type) := Value → Decoded α

/-- A mismatch ends the decoding. -/
def mismatched {α : Type} (mismatch : Mismatch) : Decoded α := .error (.mismatch mismatch)

/-- The value is of another kind than the one expected. -/
def unexpected {α : Type} (expected : String) (value : Value) : Decoded α :=
  mismatched (.invalidType value.found expected)

/-- A whole number between bounds. -/
def wholeBetween (least most : Int) (expected : String) : Decoder Int
  | .whole value =>
    if least ≤ value ∧ value ≤ most then .ok value
    else mismatched (.invalidValue (.whole value) expected)
  | value => unexpected expected value

/-- A number of 16 bits without sign. -/
def natural16 : Decoder UInt16 := fun value =>
  (wholeBetween 0 65535 "u16" value).map fun n => UInt16.ofNat n.toNat

/-- A number of 64 bits without sign. -/
def natural64 : Decoder UInt64 := fun value =>
  (wholeBetween 0 18446744073709551615 "u64" value).map fun n => UInt64.ofNat n.toNat

/-- A number of 32 bits with sign. -/
def integer32 : Decoder Int32 := fun value =>
  (wholeBetween (-2147483648) 2147483647 "i32" value).map Int32.ofInt

/-- A text. -/
def text : Decoder String
  | .text value => .ok value
  | value => unexpected "a string" value

/-- A value that need not be there. -/
def optional {α : Type} (read : Decoder α) : Decoder (Option α) := fun value =>
  (read value).map some

/-- The elements of a list, one after the other. -/
def each {α : Type} (read : Decoder α) : List Value → Decoded (List α)
  | [] => .ok []
  | item :: items => do
    let a ← read item
    let rest ← each read items
    .ok (a :: rest)

/-- A list: between brackets, or tables under headers of the same name. -/
def list {α : Type} (read : Decoder α) : Decoder (List α)
  | .list items => each read items
  | .tables items => each read (items.map (.table .opened))
  | value => unexpected "a sequence" value

/-- A variant by its name. -/
def variant {α : Type} (variants : List (String × α)) (name : String) : Decoded α :=
  match variants.lookup name with
  | some a => .ok a
  | none => mismatched (.unknownVariant name (variants.map (·.1)))

/-- The value holds nothing. -/
def Value.isVoid : Value → Bool
  | .table _ entries => entries.isEmpty
  | .list items => items.isEmpty
  | .tables items => items.isEmpty
  | _ => false

/-- One of a list of named values: a text, or a table with the name alone and nothing under it. -/
def oneOf {α : Type} (variants : List (String × α)) : Decoder α
  | .text name => variant variants name
  | .table _ [(name, value)] => do
    let a ← variant variants name
    if value.isVoid then .ok a else .error .nameless
  | _ => .error .nameless

variable {ρ : Type}

/-- Reads the entries of a table into a draft of the record. -/
def entries (shape : Shape Value DecodeError ρ) : shape.Draft → Entries → Decoded shape.Draft
  | draft, [] => .ok draft
  | draft, (name, value) :: rest => do
    let draft ← shape.put draft name value
    entries shape draft rest

/-- The record of a table's entries. -/
def ofEntries (shape : Shape Value DecodeError ρ) (table : Entries) : Decoded ρ := do
  let draft ← entries shape shape.blank table
  match shape.finish draft with
  | .ok record => .ok record
  | .error m => mismatched m

/-- The record whose fields stand in a list. -/
def ofList (kind : String) (shape : Shape Value DecodeError ρ) (items : List Value) :
    Decoded ρ := do
  let short (n : Nat) := DecodeError.mismatch (.invalidLength n (shape.listing kind))
  let (record, _) ← shape.ofItems (.ok ()) short items
  .ok record

/-- A record: a table of its fields by name, or a list of them in order. `kind` is the name of the
record in messages. A date is a table without any of the fields. -/
def record (kind : String) (shape : Shape Value DecodeError ρ) : Decoder ρ
  | .table _ table => ofEntries shape table
  | .date => ofEntries shape []
  | .list items => ofList kind shape items
  | .tables items => ofList kind shape (items.map (.table .opened))
  | value => unexpected ("struct " ++ kind) value

/-- Decodes a whole text. -/
def decode {α : Type} (read : Decoder α) (s : String) : Decoded α :=
  match document? s with
  | some document => read (.table .opened document)
  | none => .error .malformed

end LeagueWager.Toml
