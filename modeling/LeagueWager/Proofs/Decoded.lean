import LeagueWager.Proofs.Money
import LeagueWager.Proofs.Written

/-!
# What was decoded can be written and decoded again

A text says a record in many ways: its fields in any order or in a list, with fields that are
missing and others that nobody asked for, dates at any distance from universal time. Whichever way
it was said, the record that was decoded is recovered from its own written form. All there is to
know for this is that a decoded record holds nothing that cannot be written; that concerns dates,
and the reader of dates says it.

* `built_of_record`: each field of a decoded record was read, or is left at what holds when it is
  missing;
* `Stable`, `decode_render_of_decode`: from a decoded record to its written form and back;
* `RecordKind.stable`: every kind of record.
-/

namespace LeagueWager

namespace Json

/-! ## What readers return -/

/-- Some tree is read as `a`. -/
def Yields {α : Type} (read : Decoder α) (a : α) : Prop := ∃ tree, read tree = .ok a

theorem yields_of_decode {α : Type} {read : Decoder α} {s : String} {a : α}
    (h : decode read s = .ok a) : Yields read a := by
  unfold decode at h
  generalize Tree.ofText s = said at h
  obtain ⟨tree, rest⟩ := said
  obtain ⟨b, hb, h⟩ := exists_of_bind h
  split at h
  · cases h
    exact ⟨tree, hb⟩
  · cases h

theorem yields_of_each {α : Type} {read : Decoder α} {trees : List Tree} {all : List α}
    (h : each read trees = .ok all) : ∀ a ∈ all, Yields read a := by
  induction trees generalizing all with
  | nil =>
    cases h
    intro a ha
    cases ha
  | cons tree trees ih =>
    obtain ⟨first, hfirst, h⟩ := exists_of_bind h
    obtain ⟨rest, hrest, h⟩ := exists_of_bind h
    cases h
    intro a ha
    rcases List.mem_cons.mp ha with rfl | ha
    · exact ⟨tree, hfirst⟩
    · exact ih hrest a ha

theorem yields_of_list {α : Type} {read : Decoder α} {all : List α} (h : Yields (list read) all) :
    ∀ a ∈ all, Yields read a := by
  obtain ⟨tree, h⟩ := h
  unfold list at h
  split at h
  · obtain ⟨items, hitems, h⟩ := exists_of_bind h
    obtain ⟨_, _, h⟩ := exists_of_bind h
    cases h
    exact yields_of_each hitems
  · obtain ⟨_, _, h⟩ := exists_of_bind h
    cases h

/-! ## Records -/

variable {α ρ : Type}

/-- Each field of the record was read, or has the value that holds when it is missing. -/
def Built : {ρ : Type} → Shape Tree DecodeError ρ → ρ → Prop
  | _, .make record, r => r = record
  | _, .field (α := α) before _ read presence, r =>
    ∃ record, Built before record ∧
      ∃ a : α, (Yields read a ∨ presence.unnamed? = some a) ∧ r = record a

/-- Each slot of the draft that is filled was read. -/
def Filled : {ρ : Type} → (shape : Shape Tree DecodeError ρ) → shape.Draft → Prop
  | _, .make _, _ => True
  | _, .field before _ read _, draft =>
    Filled before draft.1 ∧ ∀ a, draft.2 = some a → Yields read a

theorem filled_blank (shape : Shape Tree DecodeError ρ) : Filled shape shape.blank := by
  induction shape with
  | make record => trivial
  | field before name read presence ih =>
    refine ⟨ih, ?_⟩
    intro a none
    cases none

theorem filled_put {shape : Shape Tree DecodeError ρ} {draft draft' : shape.Draft} {key : String}
    {tree : Tree} (h : Filled shape draft) (put : shape.put draft key tree = .ok draft') :
    Filled shape draft' := by
  induction shape with
  | make record => trivial
  | field before name read presence ih =>
    obtain ⟨fields, slot⟩ := draft
    obtain ⟨others, own⟩ := h
    unfold Shape.put at put
    split at put
    · cases hr : read tree with
      | error e =>
        rw [hr] at put
        cases put
      | ok a =>
        rw [hr] at put
        cases put
        refine ⟨others, ?_⟩
        rintro b same
        cases same
        exact ⟨tree, hr⟩
    · cases hp : before.put fields key tree with
      | error e =>
        dsimp only at put
        rw [hp] at put
        cases put
      | ok fields' =>
        dsimp only at put
        rw [hp] at put
        cases put
        exact ⟨ih others hp, own⟩

theorem filled_members {shape : Shape Tree DecodeError ρ} {draft draft' : shape.Draft}
    {trees : List (Except Fault String × Tree)} (h : Filled shape draft)
    (read : members shape draft trees = .ok draft') : Filled shape draft' := by
  induction trees generalizing draft with
  | nil =>
    cases read
    exact h
  | cons tree trees ih =>
    obtain ⟨key, v⟩ := tree
    unfold members at read
    obtain ⟨name, _, read⟩ := exists_of_bind read
    split at read
    · obtain ⟨_, _, read⟩ := exists_of_bind read
      exact ih h read
    · cases read
    · obtain ⟨next, put, read⟩ := exists_of_bind read
      exact ih (filled_put h put) read

theorem built_of_finish {shape : Shape Tree DecodeError ρ} {draft : shape.Draft} {r : ρ}
    (h : Filled shape draft) (finished : shape.finish draft = .ok r) : Built shape r := by
  induction shape with
  | make record =>
    cases finished
    exact rfl
  | field before name read presence ih =>
    obtain ⟨fields, slot⟩ := draft
    obtain ⟨others, own⟩ := h
    unfold Shape.finish at finished
    cases hb : before.finish fields with
    | error e =>
      dsimp only [bind, Except.bind] at finished
      rw [hb] at finished
      cases finished
    | ok record =>
      dsimp only [bind, Except.bind] at finished
      rw [hb] at finished
      refine ⟨record, ih others hb, ?_⟩
      cases slot with
      | some a =>
        cases finished
        exact ⟨a, .inl (own a rfl), rfl⟩
      | none =>
        -- the field was not given
        cases hp : presence.unnamed? with
        | none =>
          simp [hp] at finished
        | some a =>
          simp [hp] at finished
          exact ⟨a, .inr rfl, finished.symm⟩

theorem unnamed?_of_unplaced? {presence : Presence α} {a : α} (h : presence.unplaced? = some a) :
    presence.unnamed? = some a := by
  cases presence with
  | required => cases h
  | default value => exact h
  | named value => cases h

theorem built_of_items {shape : Shape Tree DecodeError ρ} {ended : Decoded Unit}
    {short : Nat → DecodeError} {trees left : List Tree} {r : ρ} {n : Nat}
    (h : shape.ofItems ended short trees = .ok (r, n, left)) : Built shape r := by
  induction shape generalizing n left with
  | make record =>
    cases h
    exact rfl
  | field before name read presence ih =>
    unfold Shape.ofItems at h
    obtain ⟨⟨record, place, items⟩, hb, h⟩ := exists_of_bind h
    refine ⟨record, ih hb, ?_⟩
    cases items with
    | cons item items =>
      obtain ⟨a, ha, h⟩ := exists_of_bind h
      cases h
      exact ⟨a, .inl ⟨item, ha⟩, rfl⟩
    | nil =>
      obtain ⟨_, _, h⟩ := exists_of_bind h
      cases hp : presence.unplaced? with
      | none =>
        rw [hp] at h
        cases h
      | some a =>
        rw [hp] at h
        cases h
        exact ⟨a, .inr (unnamed?_of_unplaced? hp), rfl⟩

/-- **A decoded record is built of what was read**, whether it was given by names or as a list. -/
theorem built_of_record {kind : String} {shape : Shape Tree DecodeError ρ} {r : ρ}
    (h : Yields (record kind shape) r) : Built shape r := by
  obtain ⟨tree, h⟩ := h
  unfold record at h
  split at h
  · obtain ⟨draft, hm, h⟩ := exists_of_bind h
    obtain ⟨_, _, h⟩ := exists_of_bind h
    split at h
    · rename_i finished
      cases h
      exact built_of_finish (filled_members (filled_blank shape) hm) finished
    · cases h
  · obtain ⟨⟨r', n, left⟩, hi, h⟩ := exists_of_bind h
    obtain ⟨_, _, h⟩ := exists_of_bind h
    cases h
    exact built_of_items hi
  · obtain ⟨_, _, h⟩ := exists_of_bind h
    cases h

/-! ## There and back -/

/-- What the reader returns is recovered from its written form. -/
def Stable (read : Decoder α) (write : α → Value) : Prop :=
  ∀ a, Yields read a → Recovers read (write a) a

/-- **A decoded value is decoded from its own written form as itself.** -/
theorem decode_render_of_decode {read : Decoder α} {write : α → Value} (stable : Stable read write)
    {s : String} {a : α} (h : decode read s = .ok a) : decode read (write a).render = .ok a :=
  decode_render (stable a (yields_of_decode h))

end Json

namespace Records

open Json

/-- A date that was read is one that can be written. -/
theorem isDate_of_yields {t : Instant} (h : Yields instant t) : t.IsDate := by
  obtain ⟨tree, h⟩ := h
  unfold instant at h
  split at h
  · split at h
    · rename_i read
      cases h
      exact Instant.isDate_of_ofText read
    · cases h
  · obtain ⟨_, _, h⟩ := exists_of_bind h
    cases h

/-- A fixture that was read kicks off at a date. -/
theorem isDate_kickOff {f : Fixture} (h : Yields fixture f) : f.kickOff.IsDate := by
  -- the fields from the last to the second, which is the date
  obtain ⟨_, fields, _, _, rfl⟩ := built_of_record h
  obtain ⟨_, fields, _, _, rfl⟩ := fields
  obtain ⟨_, fields, _, _, rfl⟩ := fields
  obtain ⟨_, fields, _, _, rfl⟩ := fields
  obtain ⟨_, fields, _, _, rfl⟩ := fields
  obtain ⟨_, fields, kickOff, date, rfl⟩ := fields
  obtain ⟨_, rfl, _, _, rfl⟩ := fields
  rcases date with read | missing
  · exact isDate_of_yields read
  · cases missing

theorem stable_fixture : Stable fixture writeFixture :=
  fun _ h => recovers_fixture (isDate_kickOff h)

theorem stable_snapshot : Stable snapshot writeSnapshot := by
  intro s h
  refine recovers_snapshot ?_
  obtain ⟨_, fields, fixtures, read, rfl⟩ := built_of_record h
  obtain ⟨_, rfl, _, _, rfl⟩ := fields
  intro f hf
  rcases read with read | missing
  · exact isDate_kickOff (yields_of_list read f hf)
  · -- a snapshot without fixtures has none to write
    obtain rfl := Option.some.inj missing
    cases hf

end Records

/-! ## Every kind of record -/

/-- The records that stand in texts. -/
inductive RecordKind where
  | status
  | team
  | goals
  | score
  | fixture
  | standing
  | liveMatch
  | assignment
  | settlementRow
  | snapshot
  deriving DecidableEq, Repr

namespace RecordKind

open Json

/-- The records of a kind. -/
@[reducible] def Record : RecordKind → Type
  | status => FixtureStatus
  | team => Team
  | goals => Goals
  | score => Score
  | fixture => Fixture
  | standing => Standing
  | liveMatch => LiveMatch
  | assignment => Assignment
  | settlementRow => SettlementRow
  | snapshot => Snapshot

/-- The reader of a kind. -/
def read : (kind : RecordKind) → Decoder kind.Record
  | status => Records.status
  | team => Records.team
  | goals => Records.goals
  | score => Records.score
  | fixture => Records.fixture
  | standing => Records.standing
  | liveMatch => Records.liveMatch
  | assignment => Records.assignment
  | settlementRow => Records.settlementRow
  | snapshot => Records.snapshot

/-- The written form of a record of a kind. -/
def write : (kind : RecordKind) → kind.Record → Value
  | status => Records.writeStatus
  | team => Records.writeTeam
  | goals => Records.writeGoals
  | score => Records.writeScore
  | fixture => Records.writeFixture
  | standing => Records.writeStanding
  | liveMatch => Records.writeLiveMatch
  | assignment => Records.writeAssignment
  | settlementRow => Records.writeSettlementRow
  | snapshot => Records.writeSnapshot

theorem stable (kind : RecordKind) : Stable kind.read kind.write := by
  cases kind with
  | status => exact fun s _ => Records.recovers_status s
  | team => exact fun t _ => Records.recovers_team t
  | goals => exact fun g _ => Records.recovers_goals g
  | score => exact fun s _ => Records.recovers_score s
  | fixture => exact Records.stable_fixture
  | standing => exact fun row _ => Records.recovers_standing row
  | liveMatch => exact fun live _ => Records.recovers_liveMatch live
  | assignment => exact fun a _ => Records.recovers_assignment a
  | settlementRow => exact fun row _ => Records.recovers_settlementRow row
  | snapshot => exact Records.stable_snapshot

/-- **Decoding undoes encoding.** Whatever text a record of any kind was decoded from, the record is
decoded from its own written form as itself; and so is every row that a settlement makes. -/
theorem decode_undoes_encode :
    (∀ (kind : RecordKind) (text : String) (r : kind.Record), decode kind.read text = .ok r →
      decode kind.read (kind.write r).render = .ok r) ∧
    ∀ (rules : Rules) (own a b : Projection) (row : SettlementRow),
      Settlement.row rules own a b = .ok row →
        decode settlementRow.read (settlementRow.write row).render = .ok row := by
  constructor
  · intro kind text r h
    exact decode_render_of_decode kind.stable h
  · intro rules own a b row _
    -- whatever a row holds can be written
    exact decode_render (Records.recovers_settlementRow row)

/-- A fixture in a leap second, at some distance from universal time, with its fields out of order,
teams as lists, and a member that is none of its fields. -/
def leapText : String :=
  "\x7b\"utcDate\": \"2016-12-31t23:59:60.5+05:30\", \"odds\": [1, null], " ++
  "\"awayTeam\": [7, \"\", \"Caf\\u00e9\"], \"status\": \"TIMED\", " ++
  "\"homeTeam\": [8, \"\", \"Wolverhampton\", \"WOL\"]\x7d"

theorem decode_undoes_encode_leap :
    ∃ (f : Fixture) (row : SettlementRow), decode fixture.read leapText = .ok f ∧
      f.kickOff.nano = 1500000000 ∧ decode fixture.read (fixture.write f).render = .ok f ∧
      Settlement.row .standard Settlement.levelBehind.first Settlement.levelBehind.second
        Settlement.levelBehind.third = .ok row ∧
      decode settlementRow.read (settlementRow.write row).render = .ok row := by
  have found : ((decode fixture.read leapText).toOption.map fun f => f.kickOff.nano)
      = some 1500000000 := by decide +kernel
  have made : (Settlement.row .standard Settlement.levelBehind.first Settlement.levelBehind.second
      Settlement.levelBehind.third).toOption.isSome = true := by decide +kernel
  cases hf : decode fixture.read leapText with
  | error e =>
    rw [hf] at found
    cases found
  | ok f =>
    rw [hf] at found
    cases hr : Settlement.row .standard Settlement.levelBehind.first Settlement.levelBehind.second
        Settlement.levelBehind.third with
    | error cause =>
      rw [hr] at made
      cases made
    | ok row =>
      exact ⟨f, row, rfl, Option.some.inj found, decode_undoes_encode.1 fixture leapText f hf, rfl,
        decode_undoes_encode.2 _ _ _ _ row hr⟩

end RecordKind

end LeagueWager
