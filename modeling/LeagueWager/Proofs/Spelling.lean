import LeagueWager.Json.Value
import LeagueWager.Proofs.Reading

/-!
# A written value is read as what it says

The written form of a JSON value spells the tree that the value stands for, and so it is read as
that tree. Strings may hold any characters; whole numbers have to fit 64 bits, with or without sign,
since larger ones are read as floating point.

* `spellsString_write`, `spellsNumeral_toDigits`: strings and whole numbers;
* `spells_write`: values;
* `ofText_render`: whole texts.
-/

namespace LeagueWager.Json

/-! ## Strings -/

theorem unit?_control : ∀ n < 32,
    unit? '0' '0' (Text.hexDigit (n / 16)) (Text.hexDigit (n % 16)) = some n := by decide

/-- How a character is written. -/
inductive Escaped (c : Char) : List Char → Prop where
  | letter {e : Char} (named : escaped? e = some c) : Escaped c ['\\', e]
  | unit (control : c.toNat < 32) : Escaped c
    ['\\', 'u', '0', '0', Text.hexDigit (c.toNat / 16), Text.hexDigit (c.toNat % 16)]
  | plain (quote : c ≠ '\x22') (backslash : c ≠ '\\') (printed : ¬ c.toNat < 32) :
    Escaped c [c]

theorem escaped_escape (c : Char) : Escaped c (escape c) := by
  unfold escape
  split
  · rename_i h
    exact .letter (by rw [h]; rfl)
  rename_i quote
  split
  · rename_i h
    exact .letter (by rw [h]; rfl)
  rename_i backslash
  split
  · rename_i h
    exact .letter (by rw [h]; rfl)
  split
  · rename_i h
    exact .letter (by rw [h]; rfl)
  split
  · rename_i h
    exact .letter (by rw [h]; rfl)
  split
  · rename_i h
    exact .letter (by rw [h]; rfl)
  split
  · rename_i h
    exact .letter (by rw [h]; rfl)
  split
  · exact .unit ‹_›
  · exact .plain quote backslash ‹_›

/-- Each written character spells one piece, and the piece says the character. -/
theorem exists_piece (c : Char) : ∃ piece, SpellsPiece piece (escape c) ∧
    ∀ stop pieces, join stop (piece :: pieces) = (join stop pieces).map (c :: ·) := by
  have written := escaped_escape c
  generalize escape c = form at written ⊢
  cases written with
  | letter named =>
    exact ⟨.char c, .letter named, fun _ _ => rfl⟩
  | unit control =>
    refine ⟨.unit c.toNat, .unit (unit?_control _ control), fun stop pieces => ?_⟩
    have notTrailing : isTrailing c.toNat = false := by simp [isTrailing]; omega
    have notLeading : isLeading c.toNat = false := by simp [isLeading]; omega
    rw [join.eq_def]
    simp [notTrailing, notLeading, Char.ofNat_toNat]
  | plain quote backslash printed =>
    exact ⟨.char c, .plain quote backslash printed, fun _ _ => rfl⟩

/-- The written characters of a text. -/
theorem exists_pieces (cs : List Char) : ∃ pieces, SpellsPieces pieces (cs.flatMap escape) ∧
    ∀ stop, join stop pieces = .ok cs := by
  induction cs with
  | nil => exact ⟨[], .nil, fun _ => rfl⟩
  | cons c cs ih =>
    obtain ⟨pieces, spelled, joined⟩ := ih
    obtain ⟨piece, one, joins⟩ := exists_piece c
    refine ⟨piece :: pieces, ?_, fun stop => ?_⟩
    · rw [List.flatMap_cons]
      exact .cons one spelled
    · rw [joins, joined]
      rfl

/-- **A written string spells its text.** -/
theorem spellsString_write (s : String) :
    SpellsString (.ok s) (s.toList.flatMap escape ++ ['\x22']) := by
  obtain ⟨pieces, spelled, joined⟩ := exists_pieces s.toList
  have text : textOf pieces = .ok s := by
    unfold textOf
    rw [joined]
    show Except.ok (String.ofList s.toList) = _
    rw [String.ofList_toList]
  rw [← text]
  exact .quoted spelled

/-! ## Whole numbers -/

/-- The number fits 64 bits, with or without sign. -/
def Fits (n : Int) : Prop := -9223372036854775808 ≤ n ∧ n ≤ 18446744073709551615

theorem le_ofDigitChars (ds : List Char) (n : Nat) : n ≤ Nat.ofDigitChars 10 ds n := by
  induction ds generalizing n with
  | nil => exact Nat.le_refl n
  | cons d ds ih =>
    rw [Nat.ofDigitChars_cons]
    have := ih (10 * n + (d.toNat - '0'.toNat))
    omega

/-- All digits are taken as long as the number that they denote fits. -/
theorem take_eq {ds : List Char} {n : Nat} (fits : Nat.ofDigitChars 10 ds n ≤ Numeral.mostKept) :
    Numeral.take n ds = (Nat.ofDigitChars 10 ds n, []) := by
  induction ds generalizing n with
  | nil => rfl
  | cons d ds ih =>
    rw [Nat.ofDigitChars_cons, Nat.mul_comm] at fits ⊢
    have next : n * 10 + (d.toNat - 48) ≤ Numeral.mostKept :=
      Nat.le_trans (le_ofDigitChars ds _) fits
    unfold Numeral.take
    dsimp only
    rw [if_pos next]
    exact ih fits

theorem number_toDigits {n : Int} (fits : Fits n) :
    Numeral.number ⟨n < 0, Nat.toDigits 10 n.natAbs, none, none⟩ = .ok (.whole n) := by
  have all : Nat.ofDigitChars 10 (Nat.toDigits 10 n.natAbs) 0 = n.natAbs :=
    Nat.ofDigitChars_ten_toDigits
  have small : n.natAbs ≤ Numeral.mostKept := by
    have := fits.1
    have := fits.2
    unfold Numeral.mostKept
    omega
  unfold Numeral.number
  rw [take_eq (by rw [all]; exact small), all]
  dsimp only
  have plain : ([] : List Char).isEmpty && (none : Option (List Char)).isNone &&
      (none : Option (Bool × List Char)).isNone &&
        (!decide (n < 0) ||
          (decide (n.natAbs ≠ 0) && decide (n.natAbs ≤ 9223372036854775808))) := by
    have := fits.1
    by_cases neg : n < 0
    · rw [decide_eq_true (show n.natAbs ≠ 0 by omega),
        decide_eq_true (show n.natAbs ≤ 9223372036854775808 by omega), decide_eq_true neg]
      rfl
    · rw [decide_eq_false neg]
      rfl
  rw [if_pos plain]
  by_cases neg : n < 0
  · rw [if_pos (decide_eq_true neg)]
    congr 2
    omega
  · rw [if_neg (by rw [decide_eq_false neg]; decide)]
    congr 2
    omega

theorem spellsNumeral_toDigits (negative : Bool) (n : Nat) :
    SpellsNumeral ⟨negative, Nat.toDigits 10 n, none, none⟩ (Nat.toDigits 10 n) := by
  have spelled : SpellsNumeral ⟨negative, Nat.toDigits 10 n, none, none⟩
      (Nat.toDigits 10 n ++ ([] ++ [])) := by
    refine .mk ⟨Nat.toDigits_ne_nil, Text.isDigit_toDigits n⟩ ?_ .absent .absent
    intro zero
    by_cases h : n = 0
    · rw [h]
      rfl
    · exact absurd zero (Text.head?_toDigits_ne h)
  rw [List.append_nil, List.append_nil] at spelled
  exact spelled

theorem spells_writeWhole {n : Int} (fits : Fits n) :
    Spells (.number (.ok (.whole n))) (writeWhole n) := by
  have digits := spellsNumeral_toDigits (n < 0) n.natAbs
  rw [← number_toDigits fits]
  unfold writeWhole
  split
  · rename_i negative
    exact .negative (decide_eq_true negative) digits
  · rename_i positive
    exact .number (decide_eq_false positive) digits

/-! ## Values -/

/-- The whole numbers of a value fit. -/
inductive Value.Fitting : Value → Prop where
  | null : Fitting .null
  | bool (b : Bool) : Fitting (.bool b)
  | whole {n : Int} (fits : Fits n) : Fitting (.whole n)
  | text (s : String) : Fitting (.text s)
  | list {items : List Value} (each : ∀ item ∈ items, item.Fitting) : Fitting (.list items)
  | object {members : List (String × Value)} (each : ∀ member ∈ members, member.2.Fitting) :
    Fitting (.object members)

theorem writeItems_cons (item next : Value) (items : List Value) (rest : List Char) :
    writeItems (item :: next :: items) rest =
      item.write (',' :: writeItems (next :: items) rest) := rfl

theorem writeMembers_cons (member next : String × Value) (members : List (String × Value))
    (rest : List Char) : writeMembers (member :: next :: members) rest =
      writeText member.1 ++ ':' :: member.2.write (',' :: writeMembers (next :: members) rest) :=
  rfl

/-- The written form of a member. -/
def writeMember (member : String × Value) : List Char :=
  writeText member.1 ++ ':' :: member.2.write []

mutual

/-- What follows a written value is not part of it. -/
theorem write_append (v : Value) (rest : List Char) : v.write rest = v.write [] ++ rest := by
  match v with
  | .null => rfl
  | .bool true => rfl
  | .bool false => rfl
  | .whole n => simp [Value.write]
  | .text s => simp [Value.write]
  | .list items =>
    rw [Value.write, writeItems_append items (']' :: rest), Value.write, writeItems_append items]
    simp
  | .object members =>
    rw [Value.write, writeMembers_append members ('\x7d' :: rest), Value.write,
      writeMembers_append members]
    simp

/-- Written elements have nothing but commas between them. -/
theorem writeItems_append (items : List Value) (rest : List Char) :
    writeItems items rest = [','].intercalate (items.map fun v => v.write []) ++ rest := by
  match items with
  | [] => rfl
  | [item] => simpa [writeItems] using write_append item rest
  | item :: next :: items =>
    rw [writeItems_cons, write_append item, writeItems_append (next :: items)]
    simp [List.intercalate_cons_cons]

/-- Written members have nothing but commas between them. -/
theorem writeMembers_append (members : List (String × Value)) (rest : List Char) :
    writeMembers members rest = [','].intercalate (members.map writeMember) ++ rest := by
  match members with
  | [] => rfl
  | [(name, v)] => simpa [writeMembers, writeMember] using write_append v rest
  | (name, v) :: next :: members =>
    rw [writeMembers_cons, write_append v, writeMembers_append (next :: members)]
    simp [List.intercalate_cons_cons, writeMember]

end

theorem itemTrees_eq (items : List Value) : itemTrees items = items.map Value.toTree := by
  induction items with
  | nil => rfl
  | cons item items ih => rw [itemTrees, ih, List.map_cons]

theorem memberTrees_eq (members : List (String × Value)) :
    memberTrees members = members.map fun member => (.ok member.1, member.2.toTree) := by
  induction members with
  | nil => rfl
  | cons member members ih => rw [memberTrees, ih, List.map_cons]

/-- A written value as an element of a list. -/
def Value.element (v : Value) : Element := ⟨v.toTree, v.write []⟩

/-- A written member as it stands in an object. -/
def writtenEntry (member : String × Value) : Entry :=
  ⟨.ok member.1, member.1.toList.flatMap escape ++ ['\x22'], [], [], member.2.toTree,
    member.2.write []⟩

theorem keyed_writtenEntry (member : String × Value) : (writtenEntry member).Keyed :=
  ⟨spellsString_write member.1, isGap_nil, isGap_nil⟩

theorem text_writtenEntry (member : String × Value) :
    (writtenEntry member).text = writeMember member := by
  simp [writtenEntry, Entry.text, Entry.tail, writeMember, writeText]

/-- **A written value spells what it says.** -/
theorem spells_write {v : Value} (fitting : v.Fitting) : Spells v.toTree (v.write []) := by
  induction fitting with
  | null => exact .null
  | bool b =>
    cases b
    · exact .isFalse
    · exact .isTrue
  | @whole n fits =>
    rw [Value.write, List.append_nil]
    exact spells_writeWhole fits
  | text s =>
    rw [Value.write, List.append_nil]
    exact .text (spellsString_write s)
  | @list items _ each =>
    have spelled : ∀ element ∈ items.map Value.element, Spells element.value element.text := by
      intro element mem
      obtain ⟨v, hv, rfl⟩ := List.mem_map.mp mem
      exact each v hv
    have all := spells_list spelled
    rw [List.map_map, List.map_map] at all
    rw [Value.toTree, itemTrees_eq, Value.write, writeItems_append]
    exact all
  | @object members _ each =>
    have keyed : ∀ entry ∈ members.map writtenEntry, entry.Keyed := by
      intro entry mem
      obtain ⟨member, _, rfl⟩ := List.mem_map.mp mem
      exact keyed_writtenEntry member
    have spelled : ∀ entry ∈ members.map writtenEntry, Spells entry.value entry.valueText := by
      intro entry mem
      obtain ⟨member, hm, rfl⟩ := List.mem_map.mp mem
      exact each member hm
    have all := spells_object keyed spelled
    rw [List.map_map, List.map_map, show Entry.text ∘ writtenEntry = writeMember from
      funext text_writtenEntry] at all
    rw [Value.toTree, memberTrees_eq, Value.write, writeMembers_append]
    exact all

/-- The written form of a value, as a whole text, spells it. -/
theorem spelledBy_render {v : Value} (fitting : v.Fitting) : v.toTree.SpelledBy v.render := by
  refine ⟨[], v.write [], [], isGap_nil, spells_write fitting, isGap_nil, ?_⟩
  unfold Value.render
  rw [String.toList_ofList, List.append_nil, List.nil_append]

/-- **The written form of a value, as a whole text, says the value** and has nothing behind it. -/
theorem ofText_render {v : Value} (fitting : v.Fitting) :
    Tree.ofText v.render = (v.toTree, []) :=
  ofText_of_spelledBy (spelledBy_render fitting)

end LeagueWager.Json
