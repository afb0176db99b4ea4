import LeagueWager.Feed
import LeagueWager.Proofs.Members
import Mathlib.Logic.Relation

/-!
# A feed that grows does not disturb decoding

A feed goes on: it gains members that nobody here asked for, brings its members in another order,
and writes null where it wrote nothing. `Edit` is one such change somewhere in a value, at a place
that the reader looks at; `Evolves` is any number of them, made or undone. A reader takes a value
before an edit and after it to the same, so that all texts of a value and of what became of it
decode alike.

* `Edit.read_iff`, `Edit.wellFormed_iff`: one edit, at any depth;
* `decode_of_evolves`: any number of them, from text to text;
* `Payload.decode_evolved`: the payloads of the feed, and the records;
* `Payload.evolution_refused`: keys have to be texts, and no field may have two members.
-/

namespace LeagueWager

namespace Json

/-! ## Edits -/

/-- One change to a value that the reader takes, somewhere in it. -/
inductive Edit : {α : Type} → Decoder α → Tree → Tree → Prop where
  /-- A record gains a member that is none of its fields. -/
  | unknown {ρ : Type} {kind : String} {shape : Shape Tree DecodeError ρ}
      {before after : List (Except Fault String × Tree)} {key : String} {value : Tree}
      (new : key ∉ shape.names) (wellFormed : value.WellFormed) :
    Edit (record kind shape) (.object (before ++ after) .closed)
      (.object (before ++ (.ok key, value) :: after) .closed)
  /-- The members of a record change places. -/
  | reordered {ρ : Type} {kind : String} {shape : Shape Tree DecodeError ρ}
      {members members' : List (Except Fault String × Tree)} (perm : members.Perm members') :
    Edit (record kind shape) (.object members .closed) (.object members' .closed)
  /-- An optional field that has no member gets one that is null. -/
  | null {ρ α : Type} {kind : String} {shape : Shape Tree DecodeError ρ} {name : String}
      {read : Decoder α} {presence : Presence (Option α)}
      {before after : List (Except Fault String × Tree)}
      (field : shape.HasField name (optional read) presence)
      (missing : presence.unnamed? = some none)
      (new : ∀ member ∈ before ++ after, member.1 ≠ .ok name) :
    Edit (record kind shape) (.object (before ++ after) .closed)
      (.object (before ++ (.ok name, .null) :: after) .closed)
  /-- The value of a field is edited. -/
  | member {ρ α : Type} {kind : String} {shape : Shape Tree DecodeError ρ} {name : String}
      {read : Decoder α} {presence : Presence α} {value value' : Tree}
      {before after : List (Except Fault String × Tree)}
      (field : shape.HasField name read presence) (inner : Edit read value value') :
    Edit (record kind shape) (.object (before ++ (.ok name, value) :: after) .closed)
      (.object (before ++ (.ok name, value') :: after) .closed)
  /-- The value of a field is edited, in a record that is given as a list. -/
  | item {ρ α : Type} {kind : String} {shape : Shape Tree DecodeError ρ} {read : Decoder α}
      {value value' : Tree} {before after : List Tree}
      (field : shape.HasPlace before.length read) (inner : Edit read value value') :
    Edit (record kind shape) (.list (before ++ value :: after) .closed)
      (.list (before ++ value' :: after) .closed)
  /-- An element of a list is edited. -/
  | element {α : Type} {read : Decoder α} {value value' : Tree} {before after : List Tree}
      (inner : Edit read value value') :
    Edit (list read) (.list (before ++ value :: after) .closed)
      (.list (before ++ value' :: after) .closed)

/-- What becomes of a value by any number of edits, each of them made or undone. -/
def Evolves {α : Type} (read : Decoder α) : Tree → Tree → Prop := Relation.EqvGen (Edit read)

variable {α : Type}

/-! ## One edit -/

/-- **An edit makes no difference to the reader.** -/
theorem Edit.read_iff {read : Decoder α} {tree tree' : Tree} (edit : Edit read tree tree') (a : α) :
    read tree = .ok a ↔ read tree' = .ok a := by
  induction edit with
  | unknown new wellFormed =>
    obtain ⟨cs, spelled⟩ := wellFormed
    rw [record_front_iff, record_object_iff]
    simp only [takes_unknown_iff new, skip_of_spells spelled, true_and, exists_eq_left]
  | reordered perm =>
    rw [record_object_iff, record_object_iff]
    simp only [members_perm_iff perm]
  | @null ρ α kind shape name read presence before after field missing new =>
    rw [record_back_iff, record_object_iff]
    refine exists_congr fun draft => and_congr_right fun others => ?_
    have free : shape.filled? draft name = some false :=
      (filled?_of_members new others).trans (filled?_blank field)
    have reads : optional read .null = .ok none := rfl
    obtain ⟨last, takes, finished⟩ := takes_default field reads missing free
    constructor
    · intro h
      exact ⟨last, takes, finished.trans h⟩
    · rintro ⟨last', takes', h⟩
      -- what a member does to a draft is no choice
      obtain rfl : last' = last := Except.ok.inj (takes'.symm.trans takes)
      exact finished.symm.trans h
  | member field inner ih =>
    rw [record_front_iff, record_front_iff]
    simp only [takes_congr field ih]
  | item field inner ih =>
    rw [record_list_iff, record_list_iff]
    simp only [ofItems_congr field ih]
  | element inner ih =>
    rw [list_iff, list_iff]
    exact each_congr ih

/-- Every text is a key. -/
theorem isKey_ok (key : String) : IsKey (.ok key) := ⟨_, spellsString_write key⟩

/-- **An edit leaves a value well formed**, and so does its undoing. -/
theorem Edit.wellFormed_iff {read : Decoder α} {tree tree' : Tree} (edit : Edit read tree tree') :
    tree.WellFormed ↔ tree'.WellFormed := by
  induction edit with
  | @unknown ρ kind shape before after key value new wellFormed =>
    simp only [wellFormed_object_iff, List.forall_mem_append, List.forall_mem_cons, isKey_ok,
      wellFormed, true_and]
  | reordered perm =>
    simp only [wellFormed_object_iff, perm.mem_iff]
  | null field missing new =>
    simp only [wellFormed_object_iff, List.forall_mem_append, List.forall_mem_cons, isKey_ok,
      wellFormed_null, true_and]
  | member field inner ih =>
    simp only [wellFormed_object_iff, List.forall_mem_append, List.forall_mem_cons, ih]
  | item field inner ih =>
    simp only [wellFormed_list_iff, List.forall_mem_append, List.forall_mem_cons, ih]
  | element inner ih =>
    simp only [wellFormed_list_iff, List.forall_mem_append, List.forall_mem_cons, ih]

/-! ## Any number of edits -/

theorem Evolves.read_iff {read : Decoder α} {tree tree' : Tree} (evolves : Evolves read tree tree')
    (a : α) : read tree = .ok a ↔ read tree' = .ok a := by
  induction evolves with
  | rel tree tree' edit => exact edit.read_iff a
  | refl tree => rfl
  | symm tree tree' _ ih => exact ih.symm
  | trans tree tree' tree'' _ _ ih ih' => exact ih.trans ih'

theorem Evolves.wellFormed_iff {read : Decoder α} {tree tree' : Tree}
    (evolves : Evolves read tree tree') : tree.WellFormed ↔ tree'.WellFormed := by
  induction evolves with
  | rel tree tree' edit => exact edit.wellFormed_iff
  | refl tree => rfl
  | symm tree tree' _ ih => exact ih.symm
  | trans tree tree' tree'' _ _ ih ih' => exact ih.trans ih'

/-- **What a text became decodes as the text did.** A text that decodes spells a tree; whatever the
tree evolves to has a text, and all its texts decode alike. -/
theorem decode_of_evolves {read : Decoder α} (strict : Strict read) {s : String} {a : α}
    (h : decode read s = .ok a) :
    ∃ tree, tree.SpelledBy s ∧ ∀ tree', Evolves read tree tree' →
      (∃ s', tree'.SpelledBy s') ∧ ∀ s', tree'.SpelledBy s' → decode read s' = .ok a := by
  obtain ⟨tree, spelled, accepted⟩ := spelledBy_of_decode strict h
  refine ⟨tree, spelled, ?_⟩
  intro tree' evolves
  obtain ⟨_, cs, _, _, wellFormed, _, _⟩ := spelled
  refine ⟨exists_text (evolves.wellFormed_iff.mp ⟨cs, wellFormed⟩), ?_⟩
  intro s' spelled'
  rw [decode_eq_of_spelledBy spelled']
  exact (evolves.read_iff a).mp accepted

end Json

/-! ## Payloads of the feed -/

namespace Feed

open Json

theorem strict_table : Strict table :=
  strict_record _ ⟨⟨trivial, strict_text⟩, strict_list Records.strict_standing⟩

theorem strict_tables : Strict tables :=
  strict_record _ ⟨trivial, strict_list strict_table⟩

theorem strict_fixtures : Strict fixtures :=
  strict_record _ ⟨trivial, strict_list Records.strict_fixture⟩

end Feed

/-- What a text of the feed or of a snapshot file may hold. -/
inductive Payload where
  | record (kind : RecordKind)
  /-- One table of the feed, all its tables, and its fixtures. -/
  | table
  | tables
  | fixtures
  deriving DecidableEq, Repr

namespace Payload

open Json

/-- The values of a payload. -/
@[reducible] def Content : Payload → Type
  | record kind => kind.Record
  | table => Feed.Table
  | tables => List Feed.Table
  | fixtures => List Fixture

/-- The reader of a payload. -/
def read : (payload : Payload) → Decoder payload.Content
  | record kind => kind.read
  | table => Feed.table
  | tables => Feed.tables
  | fixtures => Feed.fixtures

theorem strict (payload : Payload) : Strict payload.read := by
  cases payload with
  | record kind => exact kind.strict
  | table => exact Feed.strict_table
  | tables => exact Feed.strict_tables
  | fixtures => exact Feed.strict_fixtures

/-- **A feed that grows does not disturb decoding.** Whatever text decodes spells a tree. Members
that are none of the fields, with any well-formed value, members in another order, and members that
are null for optional fields without one, in any record that is given as an object and at any depth,
all this made or undone: what comes of the tree has texts, and every one of them decodes as the
first. -/
theorem decode_evolved (payload : Payload) (s : String) (r : payload.Content)
    (h : decode payload.read s = .ok r) :
    ∃ tree, tree.SpelledBy s ∧ ∀ tree', Evolves payload.read tree tree' →
      (∃ s', tree'.SpelledBy s') ∧
        ∀ s', tree'.SpelledBy s' → decode payload.read s' = .ok r :=
  decode_of_evolves payload.strict h

/-- Goals of one side, with a number of members about the other in front. -/
def homeGoals (others : List (String × Value)) : Value := .object (others ++ [("home", .whole 2)])

theorem fitting_homeGoals {others : List (String × Value)}
    (fitting : ∀ member ∈ others, member.2.Fitting) : (homeGoals others).Fitting := by
  refine .object (List.forall_mem_append.mpr ⟨fitting, ?_⟩)
  exact List.forall_mem_singleton.mpr (.whole ⟨by decide, by decide⟩)

/-- The goals as a member of a tree. -/
def homeMember : Except Fault String × Tree := (.ok "home", .number (.ok (.whole 2)))

/-- The goals with a member whose key is a surrogate without a partner. -/
def unpaired : String := "\x7b\"\\ud800\":null,\"home\":2\x7d"

theorem spelledBy_unpaired :
    (Tree.object [(.error .endInHexEscape, .null), homeMember] .closed).SpelledBy unpaired := by
  have key : SpellsString (.error .endInHexEscape) ['\\', 'u', 'd', '8', '0', '0', '\x22'] :=
    .quoted (.cons (.unit (n := 0xD800) rfl) .nil)
  refine ⟨[], _, [], isGap_nil, @spells_object
    [⟨_, _, [], [], .null, _⟩, ⟨_, _, [], [], _, _⟩]
    (List.forall_mem_cons.mpr ⟨⟨key, isGap_nil, isGap_nil⟩, List.forall_mem_singleton.mpr
      ⟨spellsString_write "home", isGap_nil, isGap_nil⟩⟩)
    (List.forall_mem_cons.mpr ⟨.null, List.forall_mem_singleton.mpr
      (spells_writeWhole (n := 2) ⟨by decide, by decide⟩)⟩), isGap_nil, ?_⟩
  decide

/-- **What a feed cannot do.** A key has to be a text, even if it is none of the fields: one that is
a surrogate without a partner is refused, and with it the record. And an optional field may have one
null, but not two. -/
theorem evolution_refused :
    decode Records.goals (homeGoals []).render = .ok ⟨some 2, none⟩ ∧
    (Tree.object [(.error .endInHexEscape, .null), homeMember] .closed).SpelledBy unpaired ∧
    decode Records.goals unpaired = .error (.fault .endInHexEscape) ∧
    decode Records.goals (homeGoals [("away", .null)]).render = .ok ⟨some 2, none⟩ ∧
    (Tree.object [(.ok "away", .null), (.ok "away", .null), homeMember] .closed).SpelledBy
      (homeGoals [("away", .null), ("away", .null)]).render ∧
    decode Records.goals (homeGoals [("away", .null), ("away", .null)]).render
      = .error (.mismatch (.duplicateField "away")) := by
  have twice : (homeGoals [("away", .null), ("away", .null)]).Fitting :=
    fitting_homeGoals (List.forall_mem_cons.mpr ⟨.null, List.forall_mem_singleton.mpr .null⟩)
  refine ⟨by decide +kernel, spelledBy_unpaired, by decide +kernel, by decide +kernel,
    spelledBy_render twice, by decide +kernel⟩

/-- A score. -/
def plainScore : Value :=
  .object [("fullTime", .object [("home", .whole 2)]), ("halfTime", .object [])]

/-- The same score later: with a winner, the halves in another order, and goals that are null. -/
def grownScore : Value :=
  .object [("winner", .list [.text "HOME_TEAM", .null]), ("halfTime", .object []),
    ("fullTime", .object [("away", .null), ("home", .whole 2)])]

theorem fitting_plainScore : plainScore.Fitting := by
  have home : (Value.object [("home", .whole 2)]).Fitting :=
    .object (List.forall_mem_singleton.mpr (.whole ⟨by decide, by decide⟩))
  have half : (Value.object []).Fitting := .object (List.forall_mem_nil _)
  exact .object (List.forall_mem_cons.mpr ⟨home, List.forall_mem_singleton.mpr half⟩)

theorem fitting_winner : (Value.list [.text "HOME_TEAM", .null]).Fitting :=
  .list (List.forall_mem_cons.mpr ⟨.text _, List.forall_mem_singleton.mpr .null⟩)

theorem fitting_grownScore : grownScore.Fitting := by
  have half : (Value.object []).Fitting := .object (List.forall_mem_nil _)
  have full : (Value.object [("away", .null), ("home", .whole 2)]).Fitting :=
    .object (List.forall_mem_cons.mpr
      ⟨.null, List.forall_mem_singleton.mpr (.whole ⟨by decide, by decide⟩)⟩)
  exact .object (List.forall_mem_cons.mpr
    ⟨fitting_winner, List.forall_mem_cons.mpr ⟨half, List.forall_mem_singleton.mpr full⟩⟩)

/-- What becomes of the score: its goals gain a null, the halves change places, a winner comes. -/
theorem evolves_score : Evolves Records.score plainScore.toTree grownScore.toTree := by
  let away : Except Fault String × Tree := (.ok "away", .null)
  let half : Except Fault String × Tree := (.ok "halfTime", .object [] .closed)
  let winner : Except Fault String × Tree :=
    (.ok "winner", .list [.text (.ok "HOME_TEAM"), .null] .closed)
  have goals : Edit Records.goals (.object [homeMember] .closed)
      (.object [away, homeMember] .closed) :=
    @Edit.null _ _ _ _ "away" _ _ [] [homeMember] .last rfl (by simp [homeMember])
  have full : Edit Records.score
      (.object [(.ok "fullTime", .object [homeMember] .closed), half] .closed)
      (.object [(.ok "fullTime", .object [away, homeMember] .closed), half] .closed) :=
    @Edit.member _ _ _ _ "fullTime" _ _ _ _ [] [half] (.before (by decide) .last) goals
  have turned : Edit Records.score
      (.object [(.ok "fullTime", .object [away, homeMember] .closed), half] .closed)
      (.object [half, (.ok "fullTime", .object [away, homeMember] .closed)] .closed) :=
    .reordered (List.Perm.swap _ _ _)
  have won : Edit Records.score
      (.object [half, (.ok "fullTime", .object [away, homeMember] .closed)] .closed)
      (.object [winner, half, (.ok "fullTime", .object [away, homeMember] .closed)] .closed) :=
    @Edit.unknown _ _ _ [] _ "winner" _ (by decide) ⟨_, spells_write fitting_winner⟩
  exact ((Relation.EqvGen.rel _ _ full).trans _ _ _ (.rel _ _ turned)).trans _ _ _ (.rel _ _ won)

/-- The text of the grown score decodes as that of the plain one. -/
theorem decode_evolved_score :
    decode (read (.record .score)) plainScore.render = .ok ⟨⟨some 2, none⟩, .unknown⟩ ∧
      decode (read (.record .score)) grownScore.render = .ok ⟨⟨some 2, none⟩, .unknown⟩ := by
  have plain : decode Records.score plainScore.render = .ok ⟨⟨some 2, none⟩, .unknown⟩ := by
    decide +kernel
  obtain ⟨tree, spelled, all⟩ := decode_evolved (.record .score) plainScore.render _ plain
  have same := ofText_of_spelledBy spelled
  rw [ofText_render fitting_plainScore] at same
  cases same
  exact ⟨plain, (all _ evolves_score).2 _ (spelledBy_render fitting_grownScore)⟩

end Payload

end LeagueWager
