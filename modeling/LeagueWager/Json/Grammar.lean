import LeagueWager.Json.Reader

/-!
# The grammar of JSON texts

Which texts spell which trees, told without a reader: `Spells` for a value, `Tree.SpelledBy` for a
whole text. A tree has many texts, with any gaps between the parts and any escapes in a string; a
text has one tree. The grammar asks for no more than that of JSON does: a string may hold surrogates
without a partner, and a number may be of any size, though neither has a value then.

* `Proofs/Reading.lean` proves that `Tree.ofText` reads the texts of this grammar, and
  `Proofs/WellFormed.lean` that it reads no others to their end.
-/

namespace LeagueWager.Json

/-- Nothing but characters that may stand between the parts of a text. -/
def IsGap (cs : List Char) : Prop := ∀ c ∈ cs, isGap c = true

/-! ## Strings -/

/-- How a piece of a string is spelled. -/
inductive SpellsPiece : Piece → List Char → Prop where
  | plain {c : Char} (quote : c ≠ '\x22') (backslash : c ≠ '\\') (printed : ¬ c.toNat < 32) :
    SpellsPiece (.char c) [c]
  | letter {e c : Char} (named : escaped? e = some c) : SpellsPiece (.char c) ['\\', e]
  | unit {a b c d : Char} {n : Nat} (digits : unit? a b c d = some n) :
    SpellsPiece (.unit n) ['\\', 'u', a, b, c, d]

/-- How the pieces of a string are spelled, one behind the other. -/
inductive SpellsPieces : List Piece → List Char → Prop where
  | nil : SpellsPieces [] []
  | cons {piece : Piece} {pieces : List Piece} {cs ds : List Char} (first : SpellsPiece piece cs)
      (others : SpellsPieces pieces ds) : SpellsPieces (piece :: pieces) (cs ++ ds)

/-- The text of a string's pieces, unless a surrogate among them has no partner. -/
def textOf (pieces : List Piece) : Except Fault String :=
  (join (.closed []) pieces).map String.ofList

/-- How a string is spelled, behind its opening quote. -/
inductive SpellsString : Except Fault String → List Char → Prop where
  | quoted {pieces : List Piece} {cs : List Char} (body : SpellsPieces pieces cs) :
    SpellsString (textOf pieces) (cs ++ ['\x22'])

/-! ## Numbers -/

/-- Digits, one at least. -/
def IsDigits (ds : List Char) : Prop := ds ≠ [] ∧ ∀ d ∈ ds, d.isDigit = true

/-- How the digits behind the point are spelled. -/
inductive SpellsPoint : Option (List Char) → List Char → Prop where
  | absent : SpellsPoint none []
  | present {ds : List Char} (digits : IsDigits ds) : SpellsPoint (some ds) ('.' :: ds)

/-- The sign of an exponent. -/
inductive SpellsSign : Bool → List Char → Prop where
  | absent : SpellsSign false []
  | plus : SpellsSign false ['+']
  | minus : SpellsSign true ['-']

/-- How an exponent is spelled. -/
inductive SpellsExponent : Option (Bool × List Char) → List Char → Prop where
  | absent : SpellsExponent none []
  | present {mark : Char} {negative : Bool} {sign ds : List Char} (e : mark = 'e' ∨ mark = 'E')
      (signed : SpellsSign negative sign) (digits : IsDigits ds) :
    SpellsExponent (some (negative, ds)) (mark :: (sign ++ ds))

/-- How a numeral is spelled, behind its sign. Only zero has a zero in front. -/
inductive SpellsNumeral : Numeral → List Char → Prop where
  | mk {negative : Bool} {ds ps es : List Char} {point : Option (List Char)}
      {exponent : Option (Bool × List Char)} (digits : IsDigits ds)
      (plain : ds.head? = some '0' → ds.length = 1) (fraction : SpellsPoint point ps)
      (scale : SpellsExponent exponent es) :
    SpellsNumeral ⟨negative, ds, point, exponent⟩ (ds ++ (ps ++ es))

/-! ## Values -/

/-- Parts with commas between them, and gaps about the commas and behind the last part. -/
inductive Separated {α : Type} (text : α → List Char) : List α → List Char → Prop where
  | one {a : α} {g : List Char} (gap : IsGap g) : Separated text [a] (text a ++ g)
  | more {a : α} {as : List α} {g h cs : List Char} (gap : IsGap g) (gap' : IsGap h)
      (others : Separated text as cs) :
    Separated text (a :: as) (text a ++ (g ++ ',' :: (h ++ cs)))

/-- An element of a list as it stands in a text. -/
structure Element where
  value : Tree
  text : List Char

/-- A member of an object as it stands in a text. -/
structure Entry where
  key : Except Fault String
  /-- The key behind its opening quote. -/
  keyText : List Char
  /-- The gap in front of the colon, and the one behind it. -/
  before : List Char
  behind : List Char
  value : Tree
  valueText : List Char

/-- What the member says. -/
def Entry.member (entry : Entry) : Except Fault String × Tree := (entry.key, entry.value)

/-- The member behind the opening quote of its key. -/
def Entry.tail (entry : Entry) : List Char :=
  entry.keyText ++ (entry.before ++ ':' :: (entry.behind ++ entry.valueText))

/-- The text of the member. -/
def Entry.text (entry : Entry) : List Char := '\x22' :: entry.tail

/-- The gaps are gaps, and the key is spelled. -/
structure Entry.Keyed (entry : Entry) : Prop where
  key : SpellsString entry.key entry.keyText
  before : IsGap entry.before
  behind : IsGap entry.behind

/-- How a value is spelled. -/
inductive Spells : Tree → List Char → Prop where
  | null : Spells .null ['n', 'u', 'l', 'l']
  | isTrue : Spells (.bool true) ['t', 'r', 'u', 'e']
  | isFalse : Spells (.bool false) ['f', 'a', 'l', 's', 'e']
  | number {numeral : Numeral} {cs : List Char} (positive : numeral.negative = false)
      (digits : SpellsNumeral numeral cs) : Spells (.number numeral.number) cs
  | negative {numeral : Numeral} {cs : List Char} (negative : numeral.negative = true)
      (digits : SpellsNumeral numeral cs) : Spells (.number numeral.number) ('-' :: cs)
  | text {text : Except Fault String} {cs : List Char} (string : SpellsString text cs) :
    Spells (.text text) ('\x22' :: cs)
  | emptyList {g : List Char} (gap : IsGap g) : Spells (.list [] .closed) ('[' :: (g ++ [']']))
  | list {elements : List Element} {g cs : List Char}
      (each : ∀ element ∈ elements, Spells element.value element.text) (gap : IsGap g)
      (separated : Separated Element.text elements cs) :
    Spells (.list (elements.map Element.value) .closed) ('[' :: (g ++ (cs ++ [']'])))
  | emptyObject {g : List Char} (gap : IsGap g) :
    Spells (.object [] .closed) ('\x7b' :: (g ++ ['\x7d']))
  | object {entries : List Entry} {g cs : List Char} (keyed : ∀ entry ∈ entries, entry.Keyed)
      (each : ∀ entry ∈ entries, Spells entry.value entry.valueText) (gap : IsGap g)
      (separated : Separated Entry.text entries cs) :
    Spells (.object (entries.map Entry.member) .closed) ('\x7b' :: (g ++ (cs ++ ['\x7d'])))

theorem isGap_nil : IsGap [] := by
  intro c h
  cases h

/-- Parts may stand without gaps. -/
theorem separated_intercalate {α : Type} (text : α → List Char) (a : α) (as : List α) :
    Separated text (a :: as) ([','].intercalate ((a :: as).map text)) := by
  induction as generalizing a with
  | nil =>
    have one : Separated text [a] (text a ++ []) := .one isGap_nil
    rw [List.append_nil] at one
    rw [List.map_cons, List.map_nil, List.intercalate_singleton]
    exact one
  | cons b as ih =>
    have more : Separated text (a :: b :: as) (text a ++ ([] ++ ',' :: ([] ++ _))) :=
      .more isGap_nil isGap_nil (ih b)
    rw [List.map_cons, List.map_cons, List.intercalate_cons_cons, List.append_assoc]
    exact more

/-- A list without gaps. -/
theorem spells_list {elements : List Element}
    (each : ∀ element ∈ elements, Spells element.value element.text) :
    Spells (.list (elements.map Element.value) .closed)
      ('[' :: ([','].intercalate (elements.map Element.text) ++ [']'])) := by
  cases elements with
  | nil => exact .emptyList isGap_nil
  | cons element elements =>
    exact .list each isGap_nil (separated_intercalate Element.text element elements)

/-- An object without gaps between its members. -/
theorem spells_object {entries : List Entry} (keyed : ∀ entry ∈ entries, entry.Keyed)
    (each : ∀ entry ∈ entries, Spells entry.value entry.valueText) :
    Spells (.object (entries.map Entry.member) .closed)
      ('\x7b' :: ([','].intercalate (entries.map Entry.text) ++ ['\x7d'])) := by
  cases entries with
  | nil => exact .emptyObject isGap_nil
  | cons entry entries =>
    exact .object keyed each isGap_nil (separated_intercalate Entry.text entry entries)

/-- The tree is that of some well-formed value. -/
def Tree.WellFormed (tree : Tree) : Prop := ∃ cs, Spells tree cs

/-- The text says the value of the tree, with gaps about it, and nothing else. -/
def Tree.SpelledBy (tree : Tree) (s : String) : Prop :=
  ∃ g cs h, IsGap g ∧ Spells tree cs ∧ IsGap h ∧ s.toList = g ++ (cs ++ h)

end LeagueWager.Json
