import LeagueWager.Date.Reader
import LeagueWager.Decimal.Shortest
import LeagueWager.Json.Reader
import LeagueWager.Record.Shape

/-!
# Decoding records from a JSON text

Readers of values, each from a tree, in the order of the text: the first thing that does not fit
is the error, be it the value or the place where the text breaks off. A record is given by an
object of named fields or by a list of its fields in order (`record`); an object's other members
are skipped, and none of its own may come twice.
-/

namespace LeagueWager.Json

/-- Why a text does not decode. -/
inductive DecodeError where
  /-- The text is not JSON. -/
  | fault (fault : Fault)
  /-- A value does not fit. -/
  | mismatch (mismatch : Mismatch)
  /-- A text is not a date. -/
  | date (error : DateError)
  deriving DecidableEq, Repr

/-- What is reported of a text that does not decode. -/
def DecodeError.message : DecodeError → String
  | .fault f => f.message
  | .mismatch m => m.message
  | .date e => e.message

/-- The outcome of a reader. -/
abbrev Decoded (α : Type) := Except DecodeError α

/-- A reader of values. -/
abbrev Decoder (α : Type) := Tree → Decoded α

/-- A fault ends the decoding. -/
def faulty {α : Type} : Except Fault α → Decoded α
  | .ok a => .ok a
  | .error fault => .error (.fault fault)

/-- A mismatch ends the decoding. -/
def mismatched {α : Type} (mismatch : Mismatch) : Decoded α := .error (.mismatch mismatch)

/-- The spelling of numbers in messages: positional from a hundred-thousandth up to sixteen places
before the point. -/
def spellReal (x : Float) : String := Decimal.spell (fun leading => -5 ≤ leading && leading ≤ 15) x

/-- How a number is named in a message. -/
def Number.found : Number → Found
  | .whole value => .whole value
  | .real value => .real (spellReal value)

/-- How a value is named in a message. Of a list or an object only the opening is looked at. -/
def Tree.found : Tree → Except Fault Found
  | .null => .ok .null
  | .bool value => .ok (.bool value)
  | .number value => value.map Number.found
  | .text value => value.map Found.text
  | .list _ _ => .ok .list
  | .object _ _ => .ok .map
  | .missing => .error .endInValue
  | .badText read _ => .error read
  | .bad read _ => .error read

/-- The value is of another kind than the one expected. -/
def unexpected {α : Type} (expected : String) (tree : Tree) : Decoded α := do
  mismatched (.invalidType (← faulty tree.found) expected)

/-- A whole number between bounds. -/
def wholeBetween (least most : Int) (expected : String) : Decoder Int
  | .number (.ok (.whole value)) =>
    if least ≤ value ∧ value ≤ most then .ok value
    else mismatched (.invalidValue (.whole value) expected)
  | tree => unexpected expected tree

/-- A number of 64 bits without sign. -/
def natural64 : Decoder UInt64 := fun tree =>
  (wholeBetween 0 18446744073709551615 "u64" tree).map fun n => UInt64.ofNat n.toNat

/-- A number of 32 bits without sign. -/
def natural32 : Decoder UInt32 := fun tree =>
  (wholeBetween 0 4294967295 "u32" tree).map fun n => UInt32.ofNat n.toNat

/-- A number of 32 bits with sign. -/
def integer32 : Decoder Int32 := fun tree =>
  (wholeBetween (-2147483648) 2147483647 "i32" tree).map Int32.ofInt

/-- A text. -/
def text : Decoder String
  | .text (.ok value) => .ok value
  | tree => unexpected "a string" tree

/-- True or false. -/
def bool : Decoder Bool
  | .bool value => .ok value
  | tree => unexpected "a boolean" tree

/-- A date. -/
def instant : Decoder Instant
  | .text (.ok value) =>
    match Instant.ofText value with
    | .ok t => .ok t
    | .error e => .error (.date e)
  | tree => unexpected "an RFC 3339 formatted date and time string" tree

/-- A value, or null in its place. -/
def optional {α : Type} (read : Decoder α) : Decoder (Option α)
  | .null => .ok none
  | tree => (read tree).map some

/-- The elements of a list, one after the other. -/
def each {α : Type} (read : Decoder α) : List Tree → Decoded (List α)
  | [] => .ok []
  | item :: items => do
    let a ← read item
    let rest ← each read items
    .ok (a :: rest)

/-- A list of any length. -/
def list {α : Type} (read : Decoder α) : Decoder (List α)
  | .list items stop => do
    let all ← each read items
    faulty stop.read
    .ok all
  | tree => unexpected "a sequence" tree

/-- The end of a list of fixed length, with the elements that are left. -/
def closeList (left : List Tree) (stop : ListStop) : Decoded Unit :=
  match left with
  | [] => faulty stop.close
  | _ :: _ => faulty (.error .trailingCharacters)

/-- A list of two. -/
def pair {α : Type} (read : Decoder α) : Decoder (α × α)
  | .list items stop => do
    let shape : Shape Tree DecodeError (α × α) :=
      ((Shape.make Prod.mk).field "0" read .required).field "1" read .required
    let short (n : Nat) := DecodeError.mismatch (.invalidLength n "an array of length 2")
    let (both, _, left) ← shape.ofItems (faulty stop.read) short items
    closeList left stop
    .ok both
  | tree => unexpected "an array of length 2" tree

/-- A variant by its name. -/
def variant {α : Type} (variants : List (String × α)) (name : String) : Decoded α :=
  match variants.lookup name with
  | some a => .ok a
  | none => mismatched (.unknownVariant name (variants.map (·.1)))

/-- One of a list of named values: a text, or an object with the name as its only key and nothing
in its place. -/
def oneOf {α : Type} (variants : List (String × α)) : Decoder α
  | .text name => do variant variants (← faulty name)
  | .object ((key, value) :: more) stop => do
    -- the name is looked at before what stands under it
    let chosen ← variant variants (← faulty key)
    match value with
    | .null =>
      match more, stop with
      | [], .closed => .ok chosen
      | [], .ended => faulty (.error .endInObject)
      | _, _ => faulty (.error .expectedValue)
    | value => unexpected "unit" value
  | .object [] (.noKey _) => faulty (.error .keyNotString)
  | .object [] (.badKey read _) => faulty (.error read)
  | .object [] (.noColon key atEnd) => do
    let _ ← variant variants (← faulty key)
    faulty (.error (if atEnd then .endInObject else .expectedColon))
  | .object [] .ended => faulty (.error .endInObject)
  | .object [] _ => faulty (.error .expectedValue)
  | .missing => faulty (.error .endInValue)
  | .badText read _ => faulty (.error read)
  | _ => faulty (.error .expectedValue)

variable {ρ : Type}

/-- Reads the members of an object into a draft of the record: known fields once each, others
skipped. -/
def members (shape : Shape Tree DecodeError ρ) :
    shape.Draft → List (Except Fault String × Tree) → Decoded shape.Draft
  | draft, [] => .ok draft
  | draft, (key, value) :: rest => do
    let name ← faulty key
    match shape.filled? draft name with
    | none =>
      faulty value.skip
      members shape draft rest
    | some true => mismatched (.duplicateField name)
    | some false => members shape (← shape.put draft name value) rest

/-- The end of an object; a key without its colon may be one that was there before. -/
def closeObject (shape : Shape Tree DecodeError ρ) (draft : shape.Draft) :
    ObjectStop Tree → Decoded Unit
  | .noColon (.ok name) atEnd =>
    if shape.filled? draft name = some true then mismatched (.duplicateField name)
    else faulty (.error (if atEnd then .endInObject else .expectedColon))
  | stop => faulty stop.read

/-- A record: an object of its fields by name, or a list of them in order. `kind` is the name of
the record in messages. -/
def record (kind : String) (shape : Shape Tree DecodeError ρ) : Decoder ρ
  | .object fields stop => do
    let draft ← members shape shape.blank fields
    closeObject shape draft stop
    match shape.finish draft with
    | .ok r => .ok r
    | .error m => mismatched m
  | .list items stop => do
    let short (n : Nat) := DecodeError.mismatch (.invalidLength n (shape.listing kind))
    let (r, _, left) ← shape.ofItems (faulty stop.read) short items
    closeList left stop
    .ok r
  | tree => unexpected ("struct " ++ kind) tree

/-- Decodes a whole text. -/
def decode {α : Type} (read : Decoder α) (s : String) : Decoded α := do
  let (tree, rest) := Tree.ofText s
  let a ← read tree
  if rest.isEmpty then .ok a else faulty (.error .trailingCharacters)

end LeagueWager.Json
