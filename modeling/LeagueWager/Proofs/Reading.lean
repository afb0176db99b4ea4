import LeagueWager.Json.Grammar
import LeagueWager.Proofs.Digits

/-!
# A text is read as what it spells

Whatever tree a text spells by the grammar, with whatever gaps and escapes, is the tree that it is
read as. The proof is by induction on how the tree is spelled; the reader's count covers the text
twice, since an element costs the reader two and the text two characters at least.

* `chars_of_spelled`, `numeralTail_of_spelled`, `reads_of_spells`: strings, numbers and values are
  read as what they spell, up to what follows them;
* `ofText_of_spelledBy`: whole texts.
-/

namespace LeagueWager.Json

/-! ## Gaps -/

theorem skipGap_append {g : List Char} (gap : IsGap g) (cs : List Char) :
    skipGap (g ++ cs) = skipGap cs :=
  List.dropWhile_append_of_pos gap

theorem skipGap_cons {c : Char} (h : isGap c = false) (cs : List Char) :
    skipGap (c :: cs) = c :: cs := by
  unfold skipGap
  rw [List.dropWhile_cons_of_neg (by simp [h])]

/-- What is behind a gap is what the reader goes on with. -/
theorem skipGap_gap_cons {g : List Char} (gap : IsGap g) {c : Char} (h : isGap c = false)
    (cs : List Char) : skipGap (g ++ c :: cs) = c :: cs :=
  (skipGap_append gap _).trans (skipGap_cons h cs)

/-- The reader skips gaps in front of a value anyway. -/
theorem value_gap {g : List Char} (gap : IsGap g) (n : Nat) (cs : List Char) :
    value n (g ++ cs) = value n cs := by
  cases n with
  | zero => rfl
  | succ n => rw [value, value, skipGap_append gap]

/-! ## Strings -/

/-- Four characters or more, where a unit could stand. -/
def IsLong (cs : List Char) : Prop := ∃ a b c d rest, cs = a :: b :: c :: d :: rest

/-- What a character that begins no escape leads to. -/
theorem body_cons (c : Char) (cs : List Char) : ∃ escaped, body (c :: cs) =
    if c = '\x22' then ([], .closed cs) else if c = '\\' then escaped
    else if c.toNat < 32 then ([], .control) else (.char c :: (body cs).1, (body cs).2) := by
  cases cs with
  | nil => exact ⟨_, body.eq_2 c⟩
  | cons e cs =>
    by_cases long : IsLong cs
    · obtain ⟨_, _, _, _, _, rfl⟩ := long
      exact ⟨_, body.eq_3 ..⟩
    · exact ⟨_, body.eq_4 c e cs fun _ _ _ _ _ h => long ⟨_, _, _, _, _, h⟩⟩

theorem body_quote (cs : List Char) : body ('\x22' :: cs) = ([], .closed cs) := by
  obtain ⟨escaped, h⟩ := body_cons '\x22' cs
  rw [h, if_pos rfl]

theorem body_plain {c : Char} (quote : c ≠ '\x22') (backslash : c ≠ '\\')
    (printed : ¬ c.toNat < 32) (cs : List Char) :
    body (c :: cs) = (.char c :: (body cs).1, (body cs).2) := by
  obtain ⟨escaped, h⟩ := body_cons c cs
  rw [h, if_neg quote, if_neg backslash, if_neg printed]

theorem body_named {e c : Char} (named : escaped? e = some c) (cs : List Char) :
    body ('\\' :: e :: cs) = (.char c :: (body cs).1, (body cs).2) := by
  have other : e ≠ 'u' := by
    rintro rfl
    cases named
  by_cases long : IsLong cs
  · obtain ⟨_, _, _, _, _, rfl⟩ := long
    rw [body.eq_3, if_neg (by decide), if_pos rfl, if_neg other, named]
  · rw [body.eq_4 '\\' e cs fun _ _ _ _ _ h => long ⟨_, _, _, _, _, h⟩, if_neg (by decide),
      if_pos rfl, if_neg other, named]

theorem body_unit {a b c d : Char} {n : Nat} (digits : unit? a b c d = some n) (cs : List Char) :
    body ('\\' :: 'u' :: a :: b :: c :: d :: cs) = (.unit n :: (body cs).1, (body cs).2) := by
  rw [body.eq_3, if_neg (by decide), if_pos rfl, if_pos rfl, digits]

theorem body_piece {piece : Piece} {cs : List Char} (h : SpellsPiece piece cs) (rest : List Char) :
    body (cs ++ rest) = (piece :: (body rest).1, (body rest).2) := by
  cases h with
  | plain quote backslash printed => exact body_plain quote backslash printed rest
  | letter named => exact body_named named rest
  | unit digits => exact body_unit digits rest

theorem body_pieces {pieces : List Piece} {cs : List Char} (h : SpellsPieces pieces cs)
    (rest : List Char) : body (cs ++ '\x22' :: rest) = (pieces, .closed rest) := by
  induction h with
  | nil => exact body_quote rest
  | cons first others ih => rw [List.append_assoc, body_piece first, ih]

/-- What follows the closing quote does not matter to a string's text. -/
theorem join_closed (rest : List Char) (pieces : List Piece) :
    join (.closed rest) pieces = join (.closed []) pieces := by
  fun_induction join (.closed rest) pieces with
  | case1 => rfl
  | case2 c pieces ih => rw [join, ih]
  | case3 n pieces trailing =>
    rw [join.eq_def]
    simp [trailing]
  | case4 n trailing leading m pieces second ih =>
    rw [ih, join.eq_def _ (.unit n :: _)]
    simp [*]
  | case5 n trailing leading m pieces single =>
    rw [join.eq_def]
    simp [*]
  | case6 n trailing leading c pieces =>
    rw [join.eq_def]
    simp [*]
  | case7 n trailing leading =>
    rw [join.eq_def]
    simp [*]
    rfl
  | case8 n pieces trailing leading ih =>
    rw [ih, join.eq_def _ (.unit n :: _)]
    simp [*]

/-- **A string is read as what it spells.** -/
theorem chars_of_spelled {text : Except Fault String} {cs : List Char} (h : SpellsString text cs)
    (rest : List Char) : chars (cs ++ rest) = .whole text rest := by
  obtain ⟨body⟩ := h
  unfold chars
  rw [List.append_assoc, List.singleton_append, body_pieces body]
  dsimp only
  rw [join_closed]
  rfl

/-! ## Numbers -/

/-- What does not go on with a number. -/
def EndsNumber (rest : List Char) : Prop :=
  ∀ c, rest.head? = some c → c.isDigit = false ∧ c ≠ '.' ∧ c ≠ 'e' ∧ c ≠ 'E'

theorem EndsNumber.noDigit {rest : List Char} (h : EndsNumber rest) : Text.NoDigit rest :=
  fun c hc => (h c hc).1

theorem endsNumber_nil : EndsNumber [] := by
  intro c h
  cases h

theorem endsNumber_cons {c : Char} (rest : List Char)
    (h : c.isDigit = false ∧ c ≠ '.' ∧ c ≠ 'e' ∧ c ≠ 'E') : EndsNumber (c :: rest) := by
  intro d hd
  cases hd
  exact h

/-- A gap ends a number, and what follows it does otherwise. -/
theorem endsNumber_gap {g rest : List Char} (gap : IsGap g) (h : EndsNumber rest) :
    EndsNumber (g ++ rest) := by
  cases g with
  | nil => exact h
  | cons c g =>
    have blank := gap c List.mem_cons_self
    have which : c = ' ' ∨ c = '\n' ∨ c = '\t' ∨ c = '\r' := by
      simpa [isGap, or_assoc] using blank
    refine endsNumber_cons _ ?_
    rcases which with rfl | rfl | rfl | rfl <;> decide

/-- Digits are taken as a whole. -/
theorem IsDigits.taken {ds rest : List Char} (digits : IsDigits ds) (ends : Text.NoDigit rest) :
    (ds ++ rest).takeWhile Char.isDigit = ds ∧ ds.isEmpty = false := by
  refine ⟨Text.takeWhile_isDigit digits.2 ends, ?_⟩
  rw [List.isEmpty_eq_false_iff]
  exact digits.1

theorem signPart_of_spelled {negative : Bool} {sign ds : List Char}
    (signed : SpellsSign negative sign) (digits : IsDigits ds) (rest : List Char) :
    signPart (sign ++ (ds ++ rest)) = (negative, ds ++ rest) := by
  cases signed with
  | plus => rfl
  | minus => rfl
  | absent =>
    -- the first digit is no sign
    obtain ⟨d, ds, rfl⟩ := List.exists_cons_of_ne_nil digits.1
    have digit := digits.2 d List.mem_cons_self
    rw [List.nil_append, List.cons_append]
    unfold signPart
    split
    · rename_i same
      cases same
      exact absurd digit (by decide)
    · rename_i same
      cases same
      exact absurd digit (by decide)
    · rfl

theorem pointPart_of_spelled {point : Option (List Char)} {ps rest : List Char}
    (fraction : SpellsPoint point ps) (ends : Text.NoDigit rest) (noPoint : rest.head? ≠ some '.') :
    pointPart (ps ++ rest) = (point, rest) ∧ point ≠ some [] := by
  cases fraction with
  | absent =>
    rw [List.nil_append]
    unfold pointPart
    refine ⟨?_, by simp⟩
    split
    · exact absurd rfl noPoint
    · rfl
  | @present ds digits =>
    refine ⟨?_, fun none => digits.1 (Option.some.inj none)⟩
    rw [List.cons_append, pointPart, (digits.taken ends).1, List.drop_left]

theorem exponentPart_of_spelled {exponent : Option (Bool × List Char)} {es rest : List Char}
    (scale : SpellsExponent exponent es) (ends : EndsNumber rest) :
    exponentPart (es ++ rest) = .ok (exponent, rest) := by
  cases scale with
  | absent =>
    rw [List.nil_append]
    cases rest with
    | nil => rfl
    | cons c rest =>
      obtain ⟨_, _, e, e'⟩ := ends c rfl
      exact if_neg (not_or.mpr ⟨e, e'⟩)
  | present e signed digits =>
    obtain ⟨taken, some⟩ := digits.taken ends.noDigit
    rw [List.cons_append, List.append_assoc, exponentPart, if_pos e,
      signPart_of_spelled signed digits]
    dsimp only
    rw [taken, List.drop_left, some]
    rfl

/-- What follows the digits of a numeral begins with no digit, and behind a point with no point. -/
theorem head?_exponent {exponent : Option (Bool × List Char)} {es rest : List Char}
    (scale : SpellsExponent exponent es) (ends : EndsNumber rest) :
    Text.NoDigit (es ++ rest) ∧ (es ++ rest).head? ≠ some '.' := by
  cases scale with
  | absent =>
    rw [List.nil_append]
    exact ⟨ends.noDigit, fun point => (ends '.' point).2.1 rfl⟩
  | present e =>
    rcases e with rfl | rfl
    · exact ⟨Text.noDigit_cons (by decide) _, by simp⟩
    · exact ⟨Text.noDigit_cons (by decide) _, by simp⟩

/-- **A numeral is read as what it spells.** -/
theorem numeralTail_of_spelled {numeral : Numeral} {cs rest : List Char}
    (h : SpellsNumeral numeral cs) (ends : EndsNumber rest) :
    numeralTail numeral.negative (cs ++ rest) = (.number numeral.number, rest) := by
  obtain @⟨negative, ds, ps, es, point, exponent, digits, plain, fraction, scale⟩ := h
  obtain ⟨noDigit, noPoint⟩ := head?_exponent scale ends
  obtain ⟨pointed, somePoint⟩ := pointPart_of_spelled fraction noDigit noPoint
  have noDigit' : Text.NoDigit (ps ++ (es ++ rest)) := by
    cases fraction with
    | absent => exact noDigit
    | present => exact Text.noDigit_cons (by decide) _
  obtain ⟨taken, some⟩ := digits.taken noDigit'
  have single : ¬ (ds.head? = Option.some '0' && decide (ds.length > 1)) = true := by
    simp only [Bool.and_eq_true, decide_eq_true_eq, not_and]
    intro zero
    rw [plain zero]
    exact Nat.lt_irrefl 1
  unfold numeralTail
  rw [List.append_assoc, List.append_assoc]
  dsimp only
  rw [taken, List.drop_left, some, if_neg (by decide), if_neg single, pointed]
  dsimp only
  rw [if_neg somePoint, exponentPart_of_spelled scale ends]

/-! ## Values -/

/-- A digit is none of the other characters that a value may start with. -/
theorem ne_of_isDigit {c : Char} (h : c.isDigit = true) (d : Char) (hd : d.isDigit = false) :
    c ≠ d := by
  rintro rfl
  rw [h] at hd
  cases hd

theorem isGap_of_isDigit {c : Char} (h : c.isDigit = true) : isGap c = false := by
  simp [isGap, ne_of_isDigit h ' ' rfl, ne_of_isDigit h '\n' rfl,
    ne_of_isDigit h '\t' rfl, ne_of_isDigit h '\r' rfl]

theorem SpellsNumeral.eq_cons {numeral : Numeral} {cs : List Char} (h : SpellsNumeral numeral cs) :
    ∃ d ds, cs = d :: ds ∧ d.isDigit = true := by
  obtain @⟨negative, ds, ps, es, point, exponent, digits, plain, fraction, scale⟩ := h
  obtain ⟨d, ds, rfl⟩ := List.exists_cons_of_ne_nil digits.1
  exact ⟨d, ds ++ (ps ++ es), List.cons_append, digits.2 d List.mem_cons_self⟩

/-- A value starts with neither a gap nor the end of a list. -/
theorem Spells.eq_cons {tree : Tree} {cs : List Char} (h : Spells tree cs) :
    ∃ c ds, cs = c :: ds ∧ isGap c = false ∧ c ≠ ']' := by
  cases h with
  | null => exact ⟨'n', _, rfl, rfl, by decide⟩
  | isTrue => exact ⟨'t', _, rfl, rfl, by decide⟩
  | isFalse => exact ⟨'f', _, rfl, rfl, by decide⟩
  | number positive digits =>
    obtain ⟨d, ds, rfl, digit⟩ := digits.eq_cons
    exact ⟨d, ds, rfl, isGap_of_isDigit digit, ne_of_isDigit digit ']' rfl⟩
  | negative => exact ⟨'-', _, rfl, rfl, by decide⟩
  | text => exact ⟨'\x22', _, rfl, rfl, by decide⟩
  | emptyList => exact ⟨'[', _, rfl, rfl, by decide⟩
  | list => exact ⟨'[', _, rfl, rfl, by decide⟩
  | emptyObject => exact ⟨'\x7b', _, rfl, rfl, by decide⟩
  | object => exact ⟨'\x7b', _, rfl, rfl, by decide⟩

theorem Spells.length_pos {tree : Tree} {cs : List Char} (h : Spells tree cs) : 0 < cs.length := by
  obtain ⟨c, ds, rfl, _, _⟩ := h.eq_cons
  exact Nat.succ_pos ds.length

/-- The text is read as the tree, whatever follows that ends a number, with a count that covers
what is left of the text twice. -/
def Reads (tree : Tree) (cs : List Char) : Prop := ∀ ⦃rest : List Char⦄ ⦃n : Nat⦄,
  EndsNumber rest → 2 * (cs ++ rest).length ≤ n → value n (cs ++ rest) = (tree, rest)

/-- The count of the reader is not zero. -/
theorem Reads.of_succ {tree : Tree} {cs : List Char} (some : 0 < cs.length)
    (h : ∀ (rest : List Char) (n : Nat), EndsNumber rest → 2 * (cs ++ rest).length ≤ n + 1 →
      value (n + 1) (cs ++ rest) = (tree, rest)) : Reads tree cs := by
  intro rest n ends enough
  rw [List.length_append] at enough
  obtain ⟨n, rfl⟩ : ∃ m, n = m + 1 := ⟨n - 1, by omega⟩
  exact h rest n ends (by rw [List.length_append]; exact enough)

/-- Elements start with neither a gap nor the end of a list. -/
theorem eq_cons_of_separated {all : List Element} {cs : List Char}
    (separated : Separated Element.text all cs)
    (each : ∀ element ∈ all, Spells element.value element.text) :
    ∃ c ds, cs = c :: ds ∧ isGap c = false ∧ c ≠ ']' := by
  cases separated with
  | @one a g gap =>
    obtain ⟨c, ds, start, other⟩ := (each a List.mem_cons_self).eq_cons
    exact ⟨c, ds ++ g, by rw [start, List.cons_append], other⟩
  | @more a as g h cs gap gap' others =>
    obtain ⟨c, ds, start, other⟩ := (each a List.mem_cons_self).eq_cons
    exact ⟨c, ds ++ (g ++ ',' :: (h ++ cs)), by rw [start, List.cons_append], other⟩

/-- The elements of a list are read up to its end. -/
theorem elements_of_separated {all : List Element} {cs : List Char}
    (separated : Separated Element.text all cs)
    (each : ∀ element ∈ all, Spells element.value element.text)
    (reads : ∀ element ∈ all, Reads element.value element.text)
    {rest : List Char} {n : Nat} (enough : 2 * (cs ++ ']' :: rest).length < n) :
    elements n (cs ++ ']' :: rest) = (all.map Element.value, .closed, rest) := by
  obtain ⟨n, rfl⟩ : ∃ m, n = m + 1 := ⟨n - 1, by omega⟩
  induction separated generalizing n with
  | @one a g gap =>
    rw [List.append_assoc] at enough ⊢
    have ends : EndsNumber (g ++ ']' :: rest) :=
      endsNumber_gap gap (endsNumber_cons _ (by decide))
    rw [elements, reads a List.mem_cons_self ends (by omega)]
    dsimp only
    rw [skipGap_gap_cons gap rfl]
    rfl
  | @more a as g h cs gap gap' others ih =>
    have each' := fun element mem => each element (List.mem_cons_of_mem a mem)
    have reads' := fun element mem => reads element (List.mem_cons_of_mem a mem)
    have some := (each a List.mem_cons_self).length_pos
    obtain ⟨c, ds, rfl, notGap, notEnd⟩ := eq_cons_of_separated others each'
    have shape : a.text ++ (g ++ ',' :: (h ++ c :: ds)) ++ ']' :: rest
        = a.text ++ (g ++ ',' :: (h ++ c :: (ds ++ ']' :: rest))) := by
      simp only [List.append_assoc, List.cons_append]
    have ends : EndsNumber (g ++ ',' :: (h ++ c :: (ds ++ ']' :: rest))) :=
      endsNumber_gap gap (endsNumber_cons _ (by decide))
    rw [shape] at enough ⊢
    have one := reads a List.mem_cons_self ends (Nat.le_of_lt_succ enough)
    -- the reader counts an element and a comma where the text has at least two characters
    simp only [List.length_append, List.length_cons] at enough
    obtain ⟨n, rfl⟩ : ∃ m, n = m + 1 := ⟨n - 1, by omega⟩
    have all := ih each' reads' n
      (by simp only [List.length_append, List.length_cons]; omega)
    rw [List.cons_append] at all
    rw [elements, one]
    dsimp only
    rw [skipGap_gap_cons gap rfl]
    simp [skipGap_gap_cons gap' notGap, notEnd, all]

/-- A member is read, up to the comma or brace behind it. -/
theorem fields_entry {entry : Entry} (keyed : entry.Keyed)
    (reads : Reads entry.value entry.valueText) {rest : List Char} (ends : EndsNumber rest)
    {n : Nat} (enough : 2 * (entry.tail ++ rest).length ≤ n) :
    fields (n + 1) (entry.tail ++ rest) =
      match skipGap rest with
      | [] => ([entry.member], .ended, [])
      | c :: rest =>
        if c = '\x7d' then ([entry.member], .closed, rest)
        else if c = ',' then
          match skipGap rest with
          | [] => ([entry.member], .commaEnded, [])
          | c :: after =>
            if c = '\x22' then
              let (members, stop, rest) := fields n after
              (entry.member :: members, stop, rest)
            else if c = '\x7d' then ([entry.member], .commaClosed, [])
            else ([entry.member], .commaOther, [])
        else ([entry.member], .other, []) := by
  have shape : entry.tail ++ rest = entry.keyText ++ (entry.before ++ ':' ::
      (entry.behind ++ (entry.valueText ++ rest))) := by
    simp only [Entry.tail, List.append_assoc, List.cons_append]
  rw [shape] at enough ⊢
  have one : value n (entry.behind ++ (entry.valueText ++ rest)) = (entry.value, rest) := by
    rw [value_gap keyed.behind]
    exact reads ends (by simp only [List.length_append, List.length_cons] at enough ⊢; omega)
  rw [fields, chars_of_spelled keyed.key]
  dsimp only
  rw [skipGap_gap_cons keyed.before rfl]
  dsimp only
  rw [if_pos rfl, one]
  rfl

/-- The members of an object are read up to its end, from behind the first quote. -/
theorem fields_of_separated {all : List Entry} {cs : List Char}
    (separated : Separated Entry.text all cs) (keyed : ∀ entry ∈ all, entry.Keyed)
    (reads : ∀ entry ∈ all, Reads entry.value entry.valueText) :
    ∃ ds, cs = '\x22' :: ds ∧ ∀ (rest : List Char) (n : Nat),
      2 * (ds ++ '\x7d' :: rest).length < n →
        fields n (ds ++ '\x7d' :: rest) = (all.map Entry.member, .closed, rest) := by
  induction separated with
  | @one a g gap =>
    refine ⟨a.tail ++ g, rfl, ?_⟩
    intro rest n enough
    obtain ⟨n, rfl⟩ : ∃ m, n = m + 1 := ⟨n - 1, by omega⟩
    rw [List.append_assoc] at enough ⊢
    rw [fields_entry (keyed a List.mem_cons_self) (reads a List.mem_cons_self)
      (endsNumber_gap gap (endsNumber_cons _ (by decide))) (by omega), skipGap_gap_cons gap rfl]
    rfl
  | @more a as g h cs gap gap' others ih =>
    obtain ⟨ds, rfl, all⟩ := ih (fun entry mem => keyed entry (List.mem_cons_of_mem a mem))
      fun entry mem => reads entry (List.mem_cons_of_mem a mem)
    refine ⟨a.tail ++ (g ++ ',' :: (h ++ '\x22' :: ds)), rfl, ?_⟩
    intro rest n enough
    obtain ⟨n, rfl⟩ : ∃ m, n = m + 1 := ⟨n - 1, by omega⟩
    have shape : a.tail ++ (g ++ ',' :: (h ++ '\x22' :: ds)) ++ '\x7d' :: rest
        = a.tail ++ (g ++ ',' :: (h ++ '\x22' :: (ds ++ '\x7d' :: rest))) := by
      simp only [List.append_assoc, List.cons_append]
    rw [shape] at enough ⊢
    rw [fields_entry (keyed a List.mem_cons_self) (reads a List.mem_cons_self)
      (endsNumber_gap gap (endsNumber_cons _ (by decide))) (by omega), skipGap_gap_cons gap rfl]
    simp only [List.length_append, List.length_cons] at enough
    have next := all rest n (by simp only [List.length_append, List.length_cons]; omega)
    simp [skipGap_gap_cons gap' (c := '\x22') rfl, next]

/-- **A value is read as what it spells**, up to what follows it. -/
theorem reads_of_spells {tree : Tree} {cs : List Char} (h : Spells tree cs) : Reads tree cs := by
  have some := h.length_pos
  induction h with
  | null =>
    refine .of_succ some fun rest n _ _ => ?_
    rw [List.cons_append, value, skipGap_cons (by rfl)]
    simp [word]
  | isTrue =>
    refine .of_succ some fun rest n _ _ => ?_
    rw [List.cons_append, value, skipGap_cons (by rfl)]
    simp [word]
  | isFalse =>
    refine .of_succ some fun rest n _ _ => ?_
    rw [List.cons_append, value, skipGap_cons (by rfl)]
    simp [word]
  | @number numeral cs positive digits =>
    refine .of_succ some fun rest n ends _ => ?_
    have tail := numeralTail_of_spelled digits ends
    obtain ⟨d, ds, rfl, digit⟩ := digits.eq_cons
    rw [positive, List.cons_append] at tail
    rw [List.cons_append, value, skipGap_cons (isGap_of_isDigit digit)]
    simpa [digit, ne_of_isDigit digit '\x22' rfl, ne_of_isDigit digit '[' rfl,
      ne_of_isDigit digit '\x7b' rfl, ne_of_isDigit digit 'n' rfl,
      ne_of_isDigit digit 't' rfl, ne_of_isDigit digit 'f' rfl,
      ne_of_isDigit digit '-' rfl] using tail
  | @negative numeral cs negative digits =>
    refine .of_succ some fun rest n ends _ => ?_
    have tail := numeralTail_of_spelled digits ends
    rw [negative] at tail
    rw [List.cons_append, value, skipGap_cons (by rfl)]
    simpa using tail
  | text string =>
    refine .of_succ some fun rest n _ _ => ?_
    rw [List.cons_append, value, skipGap_cons (by rfl)]
    simp [chars_of_spelled string]
  | @emptyList g gap =>
    refine .of_succ some fun rest n _ _ => ?_
    rw [List.cons_append, value, skipGap_cons (by rfl), List.append_assoc, List.singleton_append]
    simp [skipGap_gap_cons gap (c := ']') rfl]
  | @list elements g cs each gap separated reads =>
    refine .of_succ some fun rest n _ enough => ?_
    have all := @elements_of_separated elements cs separated each
      (fun element mem => reads element mem (each element mem).length_pos) rest n
    obtain ⟨c, ds, rfl, notGap, notEnd⟩ := eq_cons_of_separated separated each
    have shape :
        '[' :: (g ++ (c :: ds ++ [']'])) ++ rest = '[' :: (g ++ c :: (ds ++ ']' :: rest)) := by
      simp only [List.append_assoc, List.cons_append, List.nil_append]
    rw [shape] at enough ⊢
    simp only [List.length_append, List.length_cons] at enough
    have all' := all (by simp only [List.length_append, List.length_cons]; omega)
    rw [List.cons_append] at all'
    rw [value, skipGap_cons (by rfl)]
    simp [skipGap_gap_cons gap notGap, notEnd, all']
  | @emptyObject g gap =>
    refine .of_succ some fun rest n _ _ => ?_
    rw [List.cons_append, value, skipGap_cons (by rfl), List.append_assoc, List.singleton_append]
    simp [skipGap_gap_cons gap (c := '\x7d') rfl]
  | @object entries g cs keyed each gap separated reads =>
    refine .of_succ some fun rest n _ enough => ?_
    obtain ⟨ds, rfl, all⟩ := fields_of_separated separated keyed
      fun entry mem => reads entry mem (each entry mem).length_pos
    have shape : '\x7b' :: (g ++ ('\x22' :: ds ++ ['\x7d'])) ++ rest
        = '\x7b' :: (g ++ '\x22' :: (ds ++ '\x7d' :: rest)) := by
      simp only [List.append_assoc, List.cons_append, List.nil_append]
    rw [shape] at enough ⊢
    simp only [List.length_append, List.length_cons] at enough
    have all' := all rest n (by simp only [List.length_append, List.length_cons]; omega)
    rw [value, skipGap_cons (by rfl)]
    simp [skipGap_gap_cons gap (c := '\x22') rfl, all']

/-- **A text is read as the tree that it spells**, to its end. -/
theorem ofText_of_spelledBy {tree : Tree} {s : String} (h : tree.SpelledBy s) :
    Tree.ofText s = (tree, []) := by
  obtain ⟨g, cs, g', gap, spelled, gap', text⟩ := h
  have ends : EndsNumber (g' ++ []) := endsNumber_gap gap' endsNumber_nil
  rw [List.append_nil] at ends
  unfold Tree.ofText
  dsimp only
  rw [text, value_gap gap, reads_of_spells spelled ends (by simp only [List.length_append]; omega)]
  have all := skipGap_append gap' []
  rw [List.append_nil] at all
  rw [all]
  rfl

end LeagueWager.Json
