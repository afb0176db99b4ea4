import LeagueWager.Proofs.Decoding
import LeagueWager.Proofs.Strict

/-!
# The members of a record make up the record in any order

A record that is given as an object takes its members one by one into a draft. What a member does to
the draft is the business of the one field that it names, so that two members may change places;
a member that names no field is skipped; and a member that says what holds without it makes no
difference. A record that is given as a list has one element for each field, in order.

* `takes_swap`, `members_perm`: members may come in any order;
* `takes_unknown_iff`, `takes_default`, `takes_congr`: what a single member does;
* `record_front_iff`, `record_back_iff`: a record by one of its members and the others;
* `ofItems_congr`, `each_congr`: the same for lists, element by element.
-/

namespace LeagueWager

/-! ## Fields by name and by place -/

namespace Shape

variable {σ ε : Type}

/-- The field that the name stands for, with its reader and what holds when it is missing. -/
inductive HasField : {ρ α : Type} → Shape σ ε ρ → String → (σ → Except ε α) → Presence α →
    Prop where
  | last {ρ α : Type} {before : Shape σ ε (α → ρ)} {name : String} {read : σ → Except ε α}
      {presence : Presence α} : HasField (.field before name read presence) name read presence
  | before {ρ α β : Type} {before : Shape σ ε (β → ρ)} {name last : String}
      {read : σ → Except ε α} {presence : Presence α} {read' : σ → Except ε β}
      {presence' : Presence β} (other : name ≠ last) (field : HasField before name read presence) :
    HasField (.field before last read' presence') name read presence

/-- The reader of the field at the place, counted from zero. -/
inductive HasPlace : {ρ α : Type} → Shape σ ε ρ → Nat → (σ → Except ε α) → Prop where
  | last {ρ α : Type} {before : Shape σ ε (α → ρ)} {name : String} {read : σ → Except ε α}
      {presence : Presence α} : HasPlace (.field before name read presence) before.names.length read
  | before {ρ α β : Type} {before : Shape σ ε (β → ρ)} {place : Nat} {last : String}
      {read : σ → Except ε α} {read' : σ → Except ε β} {presence' : Presence β}
      (field : HasPlace before place read) :
    HasPlace (.field before last read' presence') place read

end Shape

namespace Json

/-! ## Members in any order -/

variable {α ρ : Type}

/-- The member takes the one draft of the record to the other. -/
def Takes (shape : Shape Tree DecodeError ρ) (draft : shape.Draft) (key : String) (value : Tree)
    (draft' : shape.Draft) : Prop :=
  members shape draft [(.ok key, value)] = .ok draft'

theorem members_cons_iff {shape : Shape Tree DecodeError ρ} {draft draft' : shape.Draft}
    {key : Except Fault String} {value : Tree} {trees : List (Except Fault String × Tree)} :
    members shape draft ((key, value) :: trees) = .ok draft' ↔
      ∃ name next, key = .ok name ∧ Takes shape draft name value next ∧
        members shape next trees = .ok draft' := by
  rw [show (key, value) :: trees = [(key, value)] ++ trees from rfl, members_append]
  cases key with
  | error fault =>
    refine iff_of_false ?_ ?_
    · intro h
      cases h
    · rintro ⟨name, next, h, _⟩
      cases h
  | ok name =>
    rw [bind_eq_ok_iff]
    constructor
    · rintro ⟨next, first, others⟩
      exact ⟨name, next, rfl, first, others⟩
    · rintro ⟨_, next, same, first, others⟩
      cases same
      exact ⟨next, first, others⟩

theorem takes_make_iff {r : ρ} {draft draft' : (Shape.make r : Shape Tree DecodeError ρ).Draft}
    {key : String} {value : Tree} :
    Takes (.make r) draft key value draft' ↔ value.skip = .ok () := by
  unfold Takes members
  dsimp only [faulty, bind, Except.bind, Shape.filled?]
  cases hs : value.skip with
  | error fault => simp
  | ok _ => exact iff_of_true rfl rfl

section Field

variable {shape : Shape Tree DecodeError (α → ρ)} {name key : String} {read : Decoder α}
  {presence : Presence α} {value : Tree}
  {draft draft' : (Shape.field shape name read presence).Draft}

/-- A field takes the member of its name, unless it has taken one. -/
theorem takes_field_self_iff : Takes (.field shape name read presence) draft name value draft' ↔
    draft.2 = none ∧ ∃ a, read value = .ok a ∧ draft' = (draft.1, some a) := by
  obtain ⟨fields, slot⟩ := draft
  have filled : (Shape.field shape name read presence).filled? (fields, slot) name
      = some slot.isSome := if_pos rfl
  have put : (Shape.field shape name read presence).put (fields, slot) name value
      = (read value).map fun a => (fields, some a) := if_pos rfl
  unfold Takes members
  dsimp only [faulty, bind, Except.bind]
  rw [filled, put]
  cases slot with
  | some a => simp [mismatched]
  | none => cases hr : read value with
    | error e => simp [Except.map]
    | ok a => simp [Except.map, members, eq_comm]

/-- Any other member is left to the fields before. -/
theorem takes_field_iff_of_ne (other : key ≠ name) :
    Takes (.field shape name read presence) draft key value draft' ↔
      Takes shape draft.1 key value draft'.1 ∧ draft'.2 = draft.2 := by
  obtain ⟨fields, slot⟩ := draft
  obtain ⟨fields', slot'⟩ := draft'
  have others : ∀ tree ∈ [((.ok key : Except Fault String), value)], tree.1 ≠ .ok name := by
    intro tree mem same
    obtain rfl := List.mem_singleton.mp mem
    cases same
    exact other rfl
  unfold Takes
  rw [members_field_of_ne others]
  cases members shape fields [(.ok key, value)] with
  | error e => simp [Except.map]
  | ok next => simp [Except.map, eq_comm]

end Field

/-- **Two members may change places.** -/
theorem takes_swap {shape : Shape Tree DecodeError ρ} {draft middle draft' : shape.Draft}
    {key key' : String} {value value' : Tree} (first : Takes shape draft key value middle)
    (second : Takes shape middle key' value' draft') :
    ∃ middle', Takes shape draft key' value' middle' ∧ Takes shape middle' key value draft' := by
  induction shape with
  | make r =>
    rw [takes_make_iff] at first second
    exact ⟨(), takes_make_iff.mpr second, takes_make_iff.mpr first⟩
  | field before name read presence ih =>
    by_cases own : key = name
    · subst own
      obtain ⟨empty, a, read, rfl⟩ := takes_field_self_iff.mp first
      by_cases own' : key' = key
      · -- the field cannot take both
        subst own'
        cases (takes_field_self_iff.mp second).1
      · obtain ⟨other, slot⟩ := (takes_field_iff_of_ne own').mp second
        refine ⟨(draft'.1, none), (takes_field_iff_of_ne own').mpr ⟨other, empty.symm⟩,
          takes_field_self_iff.mpr ⟨rfl, a, read, ?_⟩⟩
        exact Prod.ext rfl slot
    · obtain ⟨others, slot⟩ := (takes_field_iff_of_ne own).mp first
      by_cases own' : key' = name
      · subst own'
        obtain ⟨empty, a, read, rfl⟩ := takes_field_self_iff.mp second
        exact ⟨(draft.1, some a), takes_field_self_iff.mpr ⟨slot ▸ empty, a, read, rfl⟩,
          (takes_field_iff_of_ne own).mpr ⟨others, rfl⟩⟩
      · obtain ⟨others', slot'⟩ := (takes_field_iff_of_ne own').mp second
        obtain ⟨middle', first', second'⟩ := ih others others'
        exact ⟨(middle', draft.2), (takes_field_iff_of_ne own').mpr ⟨first', rfl⟩,
          (takes_field_iff_of_ne own).mpr ⟨second', slot'.trans slot⟩⟩

/-- **Members may come in any order.** -/
theorem members_perm {shape : Shape Tree DecodeError ρ}
    {trees trees' : List (Except Fault String × Tree)} (perm : trees.Perm trees')
    {draft draft' : shape.Draft} (h : members shape draft trees = .ok draft') :
    members shape draft trees' = .ok draft' := by
  induction perm generalizing draft with
  | nil => exact h
  | cons tree _ ih =>
    obtain ⟨name, next, key, first, others⟩ := members_cons_iff.mp h
    exact members_cons_iff.mpr ⟨name, next, key, first, ih others⟩
  | swap tree tree' trees =>
    obtain ⟨name', middle, key', first, h⟩ := members_cons_iff.mp h
    obtain ⟨name, next, key, second, others⟩ := members_cons_iff.mp h
    obtain ⟨middle', first', second'⟩ := takes_swap first second
    exact members_cons_iff.mpr ⟨name, middle', key, first',
      members_cons_iff.mpr ⟨name', next, key', second', others⟩⟩
  | trans _ _ ih ih' => exact ih' (ih h)

theorem members_perm_iff {shape : Shape Tree DecodeError ρ}
    {trees trees' : List (Except Fault String × Tree)} (perm : trees.Perm trees')
    {draft draft' : shape.Draft} :
    members shape draft trees = .ok draft' ↔ members shape draft trees' = .ok draft' :=
  ⟨members_perm perm, members_perm perm.symm⟩

/-! ## Members that make no difference -/

/-- A member that is none of the fields is skipped. -/
theorem takes_unknown_iff {shape : Shape Tree DecodeError ρ} {key : String}
    (new : key ∉ shape.names) {value : Tree} {draft draft' : shape.Draft} :
    Takes shape draft key value draft' ↔ value.skip = .ok () ∧ draft' = draft := by
  induction shape with
  | make r => rw [takes_make_iff, and_iff_left rfl]
  | field before name read presence ih =>
    rw [Shape.names, List.mem_append, not_or, List.mem_singleton] at new
    rw [takes_field_iff_of_ne new.2, ih new.1, and_assoc, Prod.ext_iff]

/-- A field without a member yet. -/
theorem filled?_blank {shape : Shape Tree DecodeError ρ} {name : String} {read : Decoder α}
    {presence : Presence α} (field : shape.HasField name read presence) :
    shape.filled? shape.blank name = some false := by
  induction field with
  | last => exact if_pos rfl
  | before other field ih => exact (if_neg other).trans ih

/-- A member fills no field but its own. -/
theorem filled?_of_takes {shape : Shape Tree DecodeError ρ} {draft draft' : shape.Draft}
    {key name : String} {value : Tree} (h : Takes shape draft key value draft')
    (other : key ≠ name) : shape.filled? draft' name = shape.filled? draft name := by
  induction shape with
  | make r => rfl
  | field before last read presence ih =>
    by_cases own : key = last
    · subst own
      obtain ⟨_, a, _, rfl⟩ := takes_field_self_iff.mp h
      exact (if_neg (Ne.symm other)).trans (if_neg (Ne.symm other)).symm
    · obtain ⟨others, slot⟩ := (takes_field_iff_of_ne own).mp h
      unfold Shape.filled?
      rw [slot, ih others]

theorem filled?_of_members {shape : Shape Tree DecodeError ρ} {name : String}
    {trees : List (Except Fault String × Tree)} (others : ∀ tree ∈ trees, tree.1 ≠ .ok name)
    {draft draft' : shape.Draft} (h : members shape draft trees = .ok draft') :
    shape.filled? draft' name = shape.filled? draft name := by
  induction trees generalizing draft with
  | nil =>
    cases h
    rfl
  | cons tree trees ih =>
    obtain ⟨other, others'⟩ := List.forall_mem_cons.mp others
    obtain ⟨key, next, same, first, rest⟩ := members_cons_iff.mp h
    have other' : key ≠ name := fun h => other (same.trans (congrArg Except.ok h))
    rw [ih others' rest, filled?_of_takes first other']

/-- A member that says what holds without it leaves the record as it is. -/
theorem takes_default {shape : Shape Tree DecodeError ρ} {name : String} {read : Decoder α}
    {presence : Presence α} (field : shape.HasField name read presence) {value : Tree} {a : α}
    (reads : read value = .ok a) (missing : presence.unnamed? = some a) {draft : shape.Draft}
    (free : shape.filled? draft name = some false) :
    ∃ draft', Takes shape draft name value draft' ∧ shape.finish draft' = shape.finish draft := by
  induction field with
  | last =>
    have free' : some draft.2.isSome = some false := (if_pos rfl).symm.trans free
    have empty : draft.2 = none := by simpa using free'
    refine ⟨(draft.1, some a), takes_field_self_iff.mpr ⟨empty, a, reads, rfl⟩, ?_⟩
    unfold Shape.finish
    rw [empty, missing]
    rfl
  | before other field ih =>
    have free' := (if_neg other).symm.trans free
    obtain ⟨draft', takes, finished⟩ := ih reads missing free'
    refine ⟨(draft', draft.2), (takes_field_iff_of_ne other).mpr ⟨takes, rfl⟩, ?_⟩
    unfold Shape.finish
    rw [finished]

/-- What a member does depends on what its value is read as. -/
theorem takes_congr {shape : Shape Tree DecodeError ρ} {name : String} {read : Decoder α}
    {presence : Presence α} (field : shape.HasField name read presence) {value value' : Tree}
    (same : ∀ a, read value = .ok a ↔ read value' = .ok a) {draft draft' : shape.Draft} :
    Takes shape draft name value draft' ↔ Takes shape draft name value' draft' := by
  induction field with
  | last => simp only [takes_field_self_iff, same]
  | before other field ih => rw [takes_field_iff_of_ne other, takes_field_iff_of_ne other, ih same]

/-! ## Readers, part by part -/

theorem record_object_iff {kind : String} {shape : Shape Tree DecodeError ρ}
    {trees : List (Except Fault String × Tree)} {r : ρ} :
    record kind shape (.object trees .closed) = .ok r ↔
      ∃ draft, members shape shape.blank trees = .ok draft ∧ shape.finish draft = .ok r := by
  constructor
  · intro h
    obtain ⟨draft, read, h⟩ := exists_of_bind h
    obtain ⟨_, _, h⟩ := exists_of_bind h
    refine ⟨draft, read, ?_⟩
    split at h
    · rename_i finished
      cases h
      exact finished
    · cases h
  · rintro ⟨draft, read, finished⟩
    unfold record
    dsimp only
    rw [read]
    dsimp only [bind, Except.bind, closeObject, ObjectStop.read, faulty]
    rw [finished]

/-- What a list is too short for. -/
def tooShort (shape : Shape Tree DecodeError ρ) (kind : String) (n : Nat) : DecodeError :=
  .mismatch (.invalidLength n (shape.listing kind))

theorem record_list_iff {kind : String} {shape : Shape Tree DecodeError ρ} {items : List Tree}
    {r : ρ} : record kind shape (.list items .closed) = .ok r ↔
      ∃ n, shape.ofItems (.ok ()) (tooShort shape kind) items = .ok (r, n, []) := by
  constructor
  · intro h
    obtain ⟨⟨r', n, left⟩, read, h⟩ := exists_of_bind h
    obtain ⟨_, closed, h⟩ := exists_of_bind h
    cases h
    obtain ⟨rfl, _⟩ := closed_of_closeList closed
    exact ⟨n, read⟩
  · rintro ⟨n, read⟩
    show (shape.ofItems (.ok ()) (tooShort shape kind) items).bind _ = _
    rw [read]
    rfl

/-- The fields of a record take one element each, and leave the others as they are. -/
theorem ofItems_append {shape : Shape Tree DecodeError ρ} {ended : Decoded Unit}
    {short : Nat → DecodeError} {taken : List Tree} (one : taken.length = shape.names.length)
    (left : List Tree) : shape.ofItems ended short (taken ++ left) =
      (shape.ofItems ended short taken).map fun out => (out.1, out.2.1, left) := by
  induction shape generalizing taken left with
  | make r =>
    obtain rfl := List.length_eq_zero_iff.mp one
    rfl
  | field before name read presence ih =>
    rw [Shape.names, List.length_append] at one
    obtain ⟨init, last, rfl⟩ : ∃ init last, taken = init ++ [last] := by
      have some : taken ≠ [] := by
        rintro rfl
        cases one
      exact ⟨_, _, (List.dropLast_concat_getLast some).symm⟩
    rw [List.length_append] at one
    have one' := Nat.add_right_cancel one
    rw [List.append_assoc, Shape.ofItems, Shape.ofItems, ih one', ih one']
    cases before.ofItems ended short init with
    | error e => rfl
    | ok out => cases hr : read last with
      | error e => simp [bind, Except.bind, Except.map, hr]
      | ok a => simp [bind, Except.bind, Except.map, hr]

/-- What a record in a list is depends on what its elements are read as. -/
theorem ofItems_congr {shape : Shape Tree DecodeError ρ} {read : Decoder α}
    {before after : List Tree} (field : shape.HasPlace before.length read) {value value' : Tree}
    (same : ∀ a, read value = .ok a ↔ read value' = .ok a) {ended : Decoded Unit}
    {short : Nat → DecodeError} {out : ρ × Nat × List Tree} :
    shape.ofItems ended short (before ++ value :: after) = .ok out ↔
      shape.ofItems ended short (before ++ value' :: after) = .ok out := by
  generalize place : before.length = n at field
  induction field with
  | @last ρ α shape name read presence =>
    rw [Shape.ofItems, Shape.ofItems, ofItems_append place, ofItems_append place]
    cases shape.ofItems ended short before with
    | error e => rfl
    | ok record =>
      show (read value).bind _ = _ ↔ (read value').bind _ = _
      rw [bind_eq_ok_iff, bind_eq_ok_iff]
      exact exists_congr fun a => and_congr_left fun _ => same a
  | before field ih =>
    rw [Shape.ofItems, Shape.ofItems]
    show Except.bind _ _ = _ ↔ Except.bind _ _ = _
    rw [bind_eq_ok_iff, bind_eq_ok_iff]
    exact exists_congr fun record => and_congr_left fun _ => ih same place

theorem list_iff {read : Decoder α} {items : List Tree} {all : List α} :
    list read (.list items .closed) = .ok all ↔ each read items = .ok all := by
  show (each read items).bind (fun all => .ok all) = _ ↔ _
  cases each read items with
  | error e => rfl
  | ok all => rfl

/-- What a list is depends on what its elements are read as. -/
theorem each_congr {read : Decoder α} {value value' : Tree}
    (same : ∀ a, read value = .ok a ↔ read value' = .ok a) {before after : List Tree}
    {all : List α} : each read (before ++ value :: after) = .ok all ↔
      each read (before ++ value' :: after) = .ok all := by
  induction before generalizing all with
  | nil =>
    rw [List.nil_append, List.nil_append, each, each]
    show (read value).bind _ = _ ↔ (read value').bind _ = _
    rw [bind_eq_ok_iff, bind_eq_ok_iff]
    exact exists_congr fun a => and_congr_left fun _ => same a
  | cons item before ih =>
    rw [List.cons_append, List.cons_append, each, each]
    show (read item).bind _ = _ ↔ (read item).bind _ = _
    rw [bind_eq_ok_iff, bind_eq_ok_iff]
    refine exists_congr fun a => and_congr_right fun _ => ?_
    show Except.bind _ _ = _ ↔ Except.bind _ _ = _
    rw [bind_eq_ok_iff, bind_eq_ok_iff]
    exact exists_congr fun rest => and_congr_left fun _ => ih

/-! ### One member and the others -/

section Middle

variable {kind : String} {shape : Shape Tree DecodeError ρ}
  {before after : List (Except Fault String × Tree)} {key : String} {value : Tree} {r : ρ}

/-- A member may as well stand in front of the others. -/
theorem record_front_iff :
    record kind shape (.object (before ++ (.ok key, value) :: after) .closed) = .ok r ↔
      ∃ next, Takes shape shape.blank key value next ∧
        ∃ draft, members shape next (before ++ after) = .ok draft ∧ shape.finish draft = .ok r := by
  rw [record_object_iff]
  simp only [members_perm_iff List.perm_middle, members_cons_iff]
  constructor
  · rintro ⟨draft, ⟨_, next, same, first, others⟩, finished⟩
    cases same
    exact ⟨next, first, draft, others, finished⟩
  · rintro ⟨next, first, draft, others, finished⟩
    exact ⟨draft, ⟨key, next, rfl, first, others⟩, finished⟩

/-- A member may as well stand behind the others. -/
theorem record_back_iff :
    record kind shape (.object (before ++ (.ok key, value) :: after) .closed) = .ok r ↔
      ∃ draft, members shape shape.blank (before ++ after) = .ok draft ∧
        ∃ last, Takes shape draft key value last ∧ shape.finish last = .ok r := by
  have perm : (before ++ (.ok key, value) :: after).Perm (before ++ after ++ [(.ok key, value)]) :=
    List.perm_middle.trans (List.perm_append_singleton _ _).symm
  rw [record_object_iff]
  simp only [members_perm_iff perm]
  generalize before ++ after = others
  simp only [members_append, bind_eq_ok_iff]
  constructor
  · rintro ⟨last, ⟨draft, others, takes⟩, finished⟩
    exact ⟨draft, others, last, takes, finished⟩
  · rintro ⟨draft, others, last, takes, finished⟩
    exact ⟨last, ⟨draft, others, takes⟩, finished⟩

end Middle

end Json

end LeagueWager
