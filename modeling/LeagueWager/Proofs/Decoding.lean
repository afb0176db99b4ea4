import LeagueWager.Proofs.Spelling
import LeagueWager.Json.Decode

/-!
# A written record is decoded as itself

A reader recovers a record from a written value if it takes the tree that the value stands for to
the record. Recovery is proved for each kind of value, and goes through lists, optional values and
the fields of records; a whole text then decodes as what was written.

* `recovers_record`: a record is recovered when its fields are, each under its own name;
* `recovers_list`, `recovers_optional`: lists and optional values;
* `decode_render`: from a recovered value to the decoded text.
-/

namespace LeagueWager.Json

/-- The reader recovers `a` from the written value. -/
structure Recovers {α : Type} (read : Decoder α) (written : Value) (a : α) : Prop where
  /-- The value can be written and read. -/
  fitting : written.Fitting
  /-- It is read as `a`. -/
  reads : read written.toTree = .ok a

/-- **What is recovered from a value is decoded from its written form.** -/
theorem decode_render {α : Type} {read : Decoder α} {written : Value} {a : α}
    (h : Recovers read written a) : decode read written.render = .ok a := by
  unfold decode
  rw [ofText_render h.fitting]
  dsimp only
  rw [h.reads]
  rfl

/-! ## Texts and numbers -/

theorem recovers_text (s : String) : Recovers text (.text s) s := ⟨.text s, rfl⟩

theorem recovers_bool (b : Bool) : Recovers bool (.bool b) b := ⟨.bool b, rfl⟩

theorem wholeBetween_whole {least most n : Int} {expected : String} (h : least ≤ n ∧ n ≤ most) :
    wholeBetween least most expected (Value.whole n).toTree = .ok n :=
  if_pos h

theorem recovers_natural64 (n : UInt64) : Recovers natural64 (.whole n.toNat) n := by
  have := n.toNat_lt
  refine ⟨.whole ⟨by omega, by omega⟩, ?_⟩
  unfold natural64
  rw [wholeBetween_whole ⟨by omega, by omega⟩]
  simp [Except.map]

theorem recovers_natural32 (n : UInt32) : Recovers natural32 (.whole n.toNat) n := by
  have := n.toNat_lt
  refine ⟨.whole ⟨by omega, by omega⟩, ?_⟩
  unfold natural32
  rw [wholeBetween_whole ⟨by omega, by omega⟩]
  simp [Except.map]

theorem recovers_integer32 (n : Int32) : Recovers integer32 (.whole n.toInt) n := by
  have := n.toInt_lt
  have := n.le_toInt
  refine ⟨.whole ⟨by omega, by omega⟩, ?_⟩
  unfold integer32
  rw [wholeBetween_whole ⟨by omega, by omega⟩]
  simp [Except.map]

/-! ## Lists and optional values -/

theorem recovers_optional {α : Type} {read : Decoder α} {write : α → Value}
    (h : ∀ a, Recovers read (write a) a) (some : ∀ a, write a ≠ .null) (o : Option α) :
    Recovers (optional read) (.ofOption write o) o := by
  cases o with
  | none => exact ⟨.null, rfl⟩
  | some a =>
    refine ⟨(h a).fitting, ?_⟩
    show optional read (write a).toTree = _
    have notNull : (write a).toTree ≠ .null := by
      have := some a
      cases hw : write a <;> simp_all [Value.toTree]
    unfold optional
    split
    · exact absurd ‹_› notNull
    · rw [(h a).reads]
      rfl

theorem each_map {α : Type} {read : Decoder α} {write : α → Value} {items : List α}
    (h : ∀ a ∈ items, read (write a).toTree = .ok a) :
    each read (items.map fun a => (write a).toTree) = .ok items := by
  induction items with
  | nil => rfl
  | cons a items ih =>
    rw [List.map_cons, each, h a List.mem_cons_self, ih fun b hb => h b (List.mem_cons_of_mem a hb)]
    rfl

theorem recovers_list {α : Type} {read : Decoder α} {write : α → Value} {items : List α}
    (h : ∀ a ∈ items, Recovers read (write a) a) :
    Recovers (list read) (.list (items.map write)) items := by
  constructor
  · refine .list fun v hv => ?_
    obtain ⟨a, ha, rfl⟩ := List.mem_map.mp hv
    exact (h a ha).fitting
  · rw [Value.toTree, itemTrees_eq, List.map_map]
    unfold list
    dsimp only
    rw [show items.map (Value.toTree ∘ write) = items.map fun a => (write a).toTree from rfl,
      each_map fun a ha => (h a ha).reads]
    rfl

theorem recovers_pair {α : Type} {read : Decoder α} {v w : Value} {a b : α}
    (first : Recovers read v a) (second : Recovers read w b) :
    Recovers (pair read) (.list [v, w]) (a, b) := by
  constructor
  · refine .list ?_
    rintro item hi
    rcases List.mem_cons.mp hi with rfl | hi
    · exact first.fitting
    · rw [List.mem_singleton.mp hi]
      exact second.fitting
  · unfold Value.toTree itemTrees itemTrees itemTrees pair
    dsimp only [Shape.ofItems, bind, Except.bind]
    rw [first.reads]
    dsimp only
    rw [second.reads]
    rfl

/-! ## Records -/

variable {α ρ : Type}

/-- The written members give the fields of the record: each field once, under its own name, in the
order of declaration. -/
inductive Given : {ρ : Type} → Shape Tree DecodeError ρ → List (String × Value) → ρ → Prop where
  | make {ρ : Type} (record : ρ) : Given (.make record) [] record
  | field {α ρ : Type} {shape : Shape Tree DecodeError (α → ρ)} {written : List (String × Value)}
      {record : α → ρ} {name : String} {read : Decoder α} {presence : Presence α} {v : Value}
      {a : α} (before : Given shape written record) (value : Recovers read v a)
      (new : name ∉ shape.names) :
      Given (.field shape name read presence) (written ++ [(name, v)]) (record a)

theorem Given.names_eq {shape : Shape Tree DecodeError ρ} {written : List (String × Value)}
    {r : ρ} (h : Given shape written r) : written.map (·.1) = shape.names := by
  induction h with
  | make => rfl
  | field _ _ _ ih => rw [List.map_append, ih]; rfl

theorem Given.fitting {shape : Shape Tree DecodeError ρ} {written : List (String × Value)}
    {r : ρ} (h : Given shape written r) : ∀ member ∈ written, member.2.Fitting := by
  induction h with
  | make => simp
  | field _ value _ ih =>
    intro member hm
    rcases List.mem_append.mp hm with hm | hm
    · exact ih member hm
    · rw [List.mem_singleton.mp hm]
      exact value.fitting

theorem memberTrees_append (members more : List (String × Value)) :
    memberTrees (members ++ more) = memberTrees members ++ memberTrees more := by
  rw [memberTrees_eq, memberTrees_eq, memberTrees_eq, List.map_append]

theorem members_append (shape : Shape Tree DecodeError ρ) (draft : shape.Draft)
    (trees more : List (Except Fault String × Tree)) :
    members shape draft (trees ++ more) =
      (members shape draft trees).bind fun draft => members shape draft more := by
  induction trees generalizing draft with
  | nil => rfl
  | cons tree trees ih =>
    obtain ⟨key, v⟩ := tree
    cases key with
    | error fault => rfl
    | ok name =>
      rw [List.cons_append, members, members]
      dsimp only [faulty, bind, Except.bind]
      cases shape.filled? draft name with
      | none => cases v.skip with
        | error fault => rfl
        | ok _ => exact ih draft
      | some filled => cases filled with
        | true => rfl
        | false => cases shape.put draft name v with
          | error e => rfl
          | ok draft => exact ih draft

section Field

variable {shape : Shape Tree DecodeError (α → ρ)} {name key : String} {read : Decoder α}
  {presence : Presence α}

theorem filled?_field_of_ne (other : key ≠ name) (draft : shape.Draft) (slot : Option α) :
    (Shape.field shape name read presence).filled? (draft, slot) key = shape.filled? draft key :=
  if_neg other

theorem put_field_of_ne (other : key ≠ name) (draft : shape.Draft) (slot : Option α) (v : Tree) :
    (Shape.field shape name read presence).put (draft, slot) key v =
      (shape.put draft key v).map fun draft => (draft, slot) :=
  if_neg other

/-- Members under other names leave a field's slot as it is. -/
theorem members_field_of_ne {trees : List (Except Fault String × Tree)}
    (others : ∀ tree ∈ trees, tree.1 ≠ .ok name) (draft : shape.Draft) (slot : Option α) :
    members (.field shape name read presence) (draft, slot) trees =
      (members shape draft trees).map fun draft => (draft, slot) := by
  induction trees generalizing draft with
  | nil => rfl
  | cons tree trees ih =>
    obtain ⟨key, v⟩ := tree
    obtain ⟨other, others'⟩ := List.forall_mem_cons.mp others
    cases key with
    | error fault => rfl
    | ok key =>
      have other : key ≠ name := fun h => other (congrArg Except.ok h)
      -- the member goes to the fields before, or is skipped: the slot is passed on in each case
      rw [members, members]
      dsimp only [faulty, bind, Except.bind]
      rw [filled?_field_of_ne other, put_field_of_ne other]
      cases shape.filled? draft key with
      | none => cases v.skip with
        | error fault => rfl
        | ok _ => exact ih others' draft
      | some filled => cases filled with
        | true => rfl
        | false => cases shape.put draft key v with
          | error e => rfl
          | ok draft => exact ih others' draft

theorem members_field_self {v : Value} {a : α} (reads : read v.toTree = .ok a)
    (draft : shape.Draft) :
    members (.field shape name read presence) (draft, none) (memberTrees [(name, v)]) =
      .ok (draft, some a) := by
  have empty : (Shape.field shape name read presence).filled? (draft, none) name = some false :=
    if_pos rfl
  have put : (Shape.field shape name read presence).put (draft, none) name v.toTree =
      (read v.toTree).map fun a => (draft, some a) := if_pos rfl
  rw [memberTrees, members]
  dsimp only [faulty, bind, Except.bind]
  rw [empty, put, reads]
  rfl

end Field

/-- The members fill the draft of the record. -/
theorem Given.members_eq {shape : Shape Tree DecodeError ρ} {written : List (String × Value)}
    {r : ρ} (h : Given shape written r) :
    ∃ draft, members shape shape.blank (memberTrees written) = .ok draft ∧
      shape.finish draft = .ok r := by
  induction h with
  | make => exact ⟨(), rfl, rfl⟩
  | @field _ _ shape written record name read presence v a before value new ih =>
    obtain ⟨draft, filled, finished⟩ := ih
    refine ⟨(draft, some a), ?_, ?_⟩
    · -- the members before fill the fields before, and leave this one to its own member
      have others : ∀ tree ∈ memberTrees written, tree.1 ≠ .ok name := by
        rw [memberTrees_eq]
        intro tree mem same
        obtain ⟨member, mem', rfl⟩ := List.mem_map.mp mem
        cases same
        exact new (before.names_eq ▸ List.mem_map_of_mem mem')
      show members (.field shape name read presence) (shape.blank, none) _ = _
      rw [memberTrees_append, members_append, members_field_of_ne others, filled]
      exact members_field_self value.reads draft
    · rw [Shape.finish, finished]
      rfl

/-- **A record is recovered from its written fields.** -/
theorem recovers_record (kind : String) {shape : Shape Tree DecodeError ρ}
    {written : List (String × Value)} {r : ρ} (h : Given shape written r) :
    Recovers (record kind shape) (.object written) r := by
  obtain ⟨draft, filled, finished⟩ := h.members_eq
  refine ⟨.object h.fitting, ?_⟩
  rw [Value.toTree]
  unfold record
  dsimp only
  rw [filled]
  dsimp only [bind, Except.bind, closeObject, ObjectStop.read, faulty]
  rw [finished]

end LeagueWager.Json
