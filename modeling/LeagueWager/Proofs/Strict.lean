import LeagueWager.Proofs.Decoded
import LeagueWager.Proofs.WellFormed

/-!
# What decodes is well formed

A reader meets a text only as far as it looks at it. A strict reader has been through all of what it
accepts, or has seen it skipped: there is no place left where the text could break off. Readers of
texts, numbers and dates are strict, and with the readers of its fields that of a record is.

* `strict_optional`, `strict_list`, `strict_record`: from parts to wholes;
* `spelledBy_of_decode`: a text that a strict reader decodes spells a tree;
* `RecordKind.strict`: every kind of record is read strictly.
-/

namespace LeagueWager

namespace Json

variable {α ρ : Type}

/-- Whatever the reader accepts could also be skipped. -/
def Strict (read : Decoder α) : Prop := ∀ tree a, read tree = .ok a → tree.skip = .ok ()

/-! ## Values -/

theorem unexpected_ne_ok (expected : String) (tree : Tree) (a : α) :
    unexpected expected tree ≠ .ok a := by
  intro h
  obtain ⟨_, _, h⟩ := exists_of_bind h
  cases h

theorem strict_wholeBetween (least most : Int) (expected : String) :
    Strict (wholeBetween least most expected) := by
  intro tree a h
  unfold wholeBetween at h
  split at h
  · rfl
  · exact absurd h (unexpected_ne_ok _ _ _)

/-- What is done with a value that was read makes a reader no less strict. -/
theorem Strict.map {β : Type} {read : Decoder α} (strict : Strict read) (f : α → β) :
    Strict fun tree => (read tree).map f := by
  intro tree b h
  cases hr : read tree with
  | error e =>
    dsimp only at h
    rw [hr] at h
    cases h
  | ok a => exact strict tree a hr

theorem strict_natural64 : Strict natural64 := (strict_wholeBetween _ _ _).map _

theorem strict_natural32 : Strict natural32 := (strict_wholeBetween _ _ _).map _

theorem strict_integer32 : Strict integer32 := (strict_wholeBetween _ _ _).map _

theorem strict_text : Strict text := by
  intro tree a h
  unfold text at h
  split at h
  · rfl
  · exact absurd h (unexpected_ne_ok _ _ _)

theorem strict_bool : Strict bool := by
  intro tree a h
  unfold bool at h
  split at h
  · rfl
  · exact absurd h (unexpected_ne_ok _ _ _)

theorem strict_instant : Strict instant := by
  intro tree a h
  unfold instant at h
  split at h
  · rfl
  · exact absurd h (unexpected_ne_ok _ _ _)

theorem strict_oneOf (variants : List (String × α)) : Strict (oneOf variants) := by
  intro tree a h
  unfold oneOf at h
  split at h
  · rfl
  · -- a name as a key has null under it, and nothing else beside it
    obtain ⟨_, _, h⟩ := exists_of_bind h
    obtain ⟨_, _, h⟩ := exists_of_bind h
    split at h
    · split at h
      · rfl
      · cases h
      · cases h
    · exact absurd h (unexpected_ne_ok _ _ _)
  · cases h
  · cases h
  · obtain ⟨_, _, h⟩ := exists_of_bind h
    obtain ⟨_, _, h⟩ := exists_of_bind h
    cases h
  all_goals cases h

theorem strict_optional {read : Decoder α} (strict : Strict read) : Strict (optional read) := by
  intro tree o h
  unfold optional at h
  split at h
  · rfl
  · exact strict.map some tree o h

/-! ## Lists -/

theorem skip_of_each {read : Decoder α} (strict : Strict read) {items : List Tree} {all : List α}
    (h : each read items = .ok all) : ∀ item ∈ items, item.skip = .ok () := by
  induction items generalizing all with
  | nil => simp
  | cons item items ih =>
    obtain ⟨a, first, h⟩ := exists_of_bind h
    obtain ⟨rest, others, _⟩ := exists_of_bind h
    exact List.forall_mem_cons.mpr ⟨strict item a first, ih others⟩

theorem closed_of_listRead {stop : ListStop} {u : Unit} (h : faulty stop.read = .ok u) :
    stop = .closed := by
  cases stop <;> first | rfl | cases h

/-- A list that its fields take up ends there. -/
theorem closed_of_closeList {left : List Tree} {stop : ListStop} {u : Unit}
    (h : closeList left stop = .ok u) : left = [] ∧ stop = .closed := by
  cases left with
  | cons item left => cases h
  | nil =>
    refine ⟨rfl, ?_⟩
    cases stop <;> first | rfl | cases h

theorem strict_list {read : Decoder α} (strict : Strict read) : Strict (list read) := by
  intro tree all h
  unfold list at h
  split at h
  · obtain ⟨_, read, h⟩ := exists_of_bind h
    obtain ⟨_, closed, _⟩ := exists_of_bind h
    exact skip_list_iff.mpr ⟨skip_of_each strict read, closed_of_listRead closed⟩
  · exact absurd h (unexpected_ne_ok _ _ _)

/-! ## Records -/

/-- The readers of all fields are strict. -/
def StrictFields : {ρ : Type} → Shape Tree DecodeError ρ → Prop
  | _, .make _ => True
  | _, .field before _ read _ => StrictFields before ∧ Strict read

theorem skip_of_put {shape : Shape Tree DecodeError ρ} (strict : StrictFields shape)
    {draft draft' : shape.Draft} {key : String} {tree : Tree} {filled : Bool}
    (field : shape.filled? draft key = some filled)
    (h : shape.put draft key tree = .ok draft') : tree.skip = .ok () := by
  induction shape with
  | make record => cases field
  | field before name read presence ih =>
    obtain ⟨others, own⟩ := strict
    unfold Shape.filled? at field
    unfold Shape.put at h
    split at h
    · cases hr : read tree with
      | error e =>
        rw [hr] at h
        cases h
      | ok a => exact own tree a hr
    · rename_i other
      rw [if_neg other] at field
      cases hp : before.put draft.1 key tree with
      | error e =>
        rw [hp] at h
        cases h
      | ok draft => exact ih others field hp

theorem skip_of_members {shape : Shape Tree DecodeError ρ} (strict : StrictFields shape)
    {trees : List (Except Fault String × Tree)} {draft draft' : shape.Draft}
    (h : members shape draft trees = .ok draft') :
    ∀ member ∈ trees, member.2.skip = .ok () := by
  induction trees generalizing draft with
  | nil => simp
  | cons member trees ih =>
    obtain ⟨key, tree⟩ := member
    unfold members at h
    obtain ⟨name, _, h⟩ := exists_of_bind h
    split at h
    · obtain ⟨_, skips, h⟩ := exists_of_bind h
      refine List.forall_mem_cons.mpr ⟨?_, ih h⟩
      cases hs : tree.skip with
      | error fault =>
        rw [hs] at skips
        cases skips
      | ok _ => rfl
    · cases h
    · rename_i field
      obtain ⟨next, put, h⟩ := exists_of_bind h
      exact List.forall_mem_cons.mpr ⟨skip_of_put strict field put, ih h⟩

theorem closed_of_closeObject {shape : Shape Tree DecodeError ρ} {draft : shape.Draft}
    {stop : ObjectStop Tree} {u : Unit} (h : closeObject shape draft stop = .ok u) :
    stop = .closed := by
  unfold closeObject at h
  split at h
  · split at h
    · cases h
    · cases h
  · rename_i notNamed
    cases stop with
    | closed => rfl
    | noColon key atEnd =>
      cases key with
      | error fault => cases h
      | ok name => exact absurd rfl (notNamed name atEnd)
    | _ => cases h

/-- The elements of a list that its fields were read from. -/
theorem skip_of_items {shape : Shape Tree DecodeError ρ} (strict : StrictFields shape)
    {ended : Decoded Unit} {short : Nat → DecodeError} {items left : List Tree} {r : ρ} {n : Nat}
    (h : shape.ofItems ended short items = .ok (r, n, left)) :
    ∃ taken, items = taken ++ left ∧ ∀ item ∈ taken, item.skip = .ok () := by
  induction shape generalizing n left with
  | make record =>
    cases h
    exact ⟨[], rfl, by simp⟩
  | field before name read presence ih =>
    unfold Shape.ofItems at h
    obtain ⟨⟨record, place, items'⟩, hb, last⟩ := exists_of_bind h
    obtain ⟨taken, rfl, skips⟩ := ih strict.1 hb
    cases items' with
    | cons item items' =>
      obtain ⟨a, ha, done⟩ := exists_of_bind last
      cases done
      refine ⟨taken ++ [item], by rw [List.append_assoc, List.singleton_append], ?_⟩
      intro other mem
      rcases List.mem_append.mp mem with mem | mem
      · exact skips other mem
      · obtain rfl := List.mem_singleton.mp mem
        exact strict.2 _ a ha
    | nil =>
      obtain ⟨_, _, missing⟩ := exists_of_bind last
      split at missing
      · cases missing
        exact ⟨taken, rfl, skips⟩
      · cases missing

theorem strict_pair {read : Decoder α} (strict : Strict read) : Strict (pair read) := by
  intro tree both h
  unfold pair at h
  split at h
  · obtain ⟨⟨_, n, left⟩, accepted, h⟩ := exists_of_bind h
    obtain ⟨_, closed, _⟩ := exists_of_bind h
    have fields : StrictFields (((Shape.make (Prod.mk : α → α → α × α)).field "0" read
      .required).field "1" read .required) := ⟨⟨trivial, strict⟩, strict⟩
    obtain ⟨taken, rfl, skips⟩ := skip_of_items fields accepted
    obtain ⟨rfl, ended⟩ := closed_of_closeList closed
    rw [List.append_nil]
    exact skip_list_iff.mpr ⟨skips, ended⟩
  · exact absurd h (unexpected_ne_ok _ _ _)

theorem strict_record (kind : String) {shape : Shape Tree DecodeError ρ}
    (strict : StrictFields shape) : Strict (record kind shape) := by
  intro tree r h
  unfold record at h
  split at h
  · obtain ⟨draft, read, h⟩ := exists_of_bind h
    obtain ⟨_, closed, _⟩ := exists_of_bind h
    exact skip_object_iff.mpr ⟨skip_of_members strict read, closed_of_closeObject closed⟩
  · obtain ⟨⟨_, n, left⟩, read, h⟩ := exists_of_bind h
    obtain ⟨_, closed, _⟩ := exists_of_bind h
    obtain ⟨taken, rfl, skips⟩ := skip_of_items strict read
    obtain ⟨rfl, ended⟩ := closed_of_closeList closed
    rw [List.append_nil]
    exact skip_list_iff.mpr ⟨skips, ended⟩
  · exact absurd h (unexpected_ne_ok _ _ _)

/-! ## Texts -/

/-- **A text that a strict reader decodes spells a tree**, and the reader accepts the tree. -/
theorem spelledBy_of_decode {read : Decoder α} (strict : Strict read) {s : String} {a : α}
    (h : decode read s = .ok a) : ∃ tree, tree.SpelledBy s ∧ read tree = .ok a := by
  unfold decode at h
  generalize said : Tree.ofText s = pair at h
  obtain ⟨tree, rest⟩ := pair
  obtain ⟨b, accepted, h⟩ := exists_of_bind h
  split at h
  · rename_i done
    cases h
    obtain rfl := List.isEmpty_iff.mp done
    exact ⟨tree, spelledBy_of_ofText said (strict tree a accepted), accepted⟩
  · cases h

/-- What a text spells decides what it decodes to. -/
theorem decode_eq_of_spelledBy {tree : Tree} {s : String} (h : tree.SpelledBy s)
    (read : Decoder α) : decode read s = read tree := by
  unfold decode
  rw [ofText_of_spelledBy h]
  cases hr : read tree with
  | error e => simp [hr, bind, Except.bind]
  | ok a => simp [hr, bind, Except.bind]

end Json

/-! ## Every kind of record -/

namespace Records

open Json

theorem strict_team : Strict team :=
  strict_record _ ⟨⟨⟨⟨trivial, strict_natural64⟩, strict_text⟩, strict_text⟩, strict_text⟩

theorem strict_goals : Strict goals :=
  strict_record _ ⟨⟨trivial, strict_optional strict_natural32⟩, strict_optional strict_natural32⟩

theorem strict_score : Strict score :=
  strict_record _ ⟨⟨trivial, strict_goals⟩, strict_goals⟩

theorem strict_fixture : Strict fixture :=
  strict_record _ ⟨⟨⟨⟨⟨⟨⟨trivial, strict_natural64⟩, strict_instant⟩, strict_oneOf _⟩,
    strict_optional strict_natural32⟩, strict_team⟩, strict_team⟩, strict_score⟩

theorem strict_standing : Strict standing :=
  strict_record _ ⟨⟨⟨⟨⟨⟨⟨⟨⟨⟨trivial, strict_natural32⟩, strict_team⟩, strict_integer32⟩,
    strict_integer32⟩, strict_integer32⟩, strict_integer32⟩, strict_integer32⟩, strict_integer32⟩,
    strict_integer32⟩, strict_integer32⟩

theorem strict_liveMatch : Strict liveMatch :=
  strict_record _ ⟨⟨⟨⟨trivial, strict_text⟩, strict_text⟩, strict_natural32⟩, strict_natural32⟩

theorem strict_assignment : Strict assignment :=
  strict_record _ ⟨⟨⟨trivial, strict_text⟩, strict_text⟩, strict_pair strict_text⟩

theorem strict_settlementRow : Strict settlementRow :=
  strict_record _ ⟨⟨⟨⟨⟨⟨⟨⟨⟨⟨⟨⟨⟨⟨⟨⟨⟨trivial, strict_text⟩, strict_text⟩, strict_integer32⟩,
    strict_integer32⟩, strict_text⟩, strict_integer32⟩, strict_text⟩, strict_integer32⟩,
    strict_integer32⟩, strict_integer32⟩, strict_text⟩, strict_integer32⟩, strict_bool⟩,
    strict_optional strict_text⟩, strict_optional strict_text⟩, strict_optional strict_natural32⟩,
    strict_optional strict_natural32⟩

theorem strict_snapshot : Strict snapshot :=
  strict_record _ ⟨⟨trivial, strict_list strict_standing⟩, strict_list strict_fixture⟩

end Records

open Json in
theorem RecordKind.strict (kind : RecordKind) : Strict kind.read := by
  cases kind with
  | status => exact strict_oneOf _
  | team => exact Records.strict_team
  | goals => exact Records.strict_goals
  | score => exact Records.strict_score
  | fixture => exact Records.strict_fixture
  | standing => exact Records.strict_standing
  | liveMatch => exact Records.strict_liveMatch
  | assignment => exact Records.strict_assignment
  | settlementRow => exact Records.strict_settlementRow
  | snapshot => exact Records.strict_snapshot

end LeagueWager
