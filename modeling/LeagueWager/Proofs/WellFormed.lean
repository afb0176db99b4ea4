import LeagueWager.Proofs.Reading

/-!
# What was read whole was well formed

The reader goes through a text up to where it stops being JSON, and the tree holds that place. If a
tree holds no such place, so that skipping it meets no fault, then the text in front of what is left
spells the tree. With `Proofs/Reading` this says that the reader and the grammar agree.

* `exists_of_chars`, `exists_of_numeralTail`, `reads_whole`: what was read of a string, a number or
  a value spells it; the last is an induction on the reader's count;
* `spelledBy_of_ofText`: whole texts;
* `wellFormed_list_iff`, `wellFormed_object_iff`: well-formed values, part by part.
-/

namespace LeagueWager.Json

/-! ## Strings and numbers -/

theorem exists_gap (cs : List Char) : ∃ g, IsGap g ∧ cs = g ++ skipGap cs := by
  refine ⟨cs.takeWhile isGap, ?_, List.takeWhile_append_dropWhile.symm⟩
  intro c hc
  exact List.all_eq_true.mp List.all_takeWhile c hc

/-- What the reader finds behind a gap. -/
theorem exists_gap_cons {c : Char} {cs rest : List Char} (h : skipGap cs = c :: rest) :
    ∃ g, IsGap g ∧ cs = g ++ c :: rest := by
  obtain ⟨g, gap, text⟩ := exists_gap cs
  exact ⟨g, gap, h ▸ text⟩

theorem IsGap.append {g h : List Char} (gap : IsGap g) (gap' : IsGap h) : IsGap (g ++ h) := by
  intro c hc
  rcases List.mem_append.mp hc with hc | hc
  · exact gap c hc
  · exact gap' c hc

theorem exists_of_body {cs rest : List Char} {pieces : List Piece}
    (h : body cs = (pieces, .closed rest)) :
    ∃ ds, SpellsPieces pieces ds ∧ cs = ds ++ '\x22' :: rest := by
  fun_induction body cs generalizing pieces with
  | case1 => cases h
  | case2 =>
    cases h
    exact ⟨[], .nil, rfl⟩
  | case3 => cases h
  | case4 a b c d cs n digits pieces stop read _ ih =>
    cases h
    obtain ⟨ds, others, rfl⟩ := ih read
    exact ⟨_, .cons (.unit digits) others, rfl⟩
  | case5 => cases h
  | case6 few =>
    split at h
    · cases h
    · cases h
  | case7 e cs _ c named pieces stop read _ ih =>
    cases h
    obtain ⟨ds, others, rfl⟩ := ih read
    exact ⟨_, .cons (.letter named) others, rfl⟩
  | case8 => cases h
  | case9 => cases h
  | case10 c cs quote backslash printed pieces stop read ih =>
    cases h
    obtain ⟨ds, others, rfl⟩ := ih read
    exact ⟨_, .cons (.plain quote backslash printed) others, rfl⟩

theorem exists_of_chars {cs rest : List Char} {text : Except Fault String}
    (h : chars cs = .whole text rest) : ∃ ds, SpellsString text ds ∧ cs = ds ++ rest := by
  unfold chars at h
  generalize read : body cs = pair at h
  obtain ⟨pieces, stop⟩ := pair
  dsimp only at h
  split at h
  · cases h
    obtain ⟨ds, spelled, rfl⟩ := exists_of_body read
    rw [join_closed]
    exact ⟨ds ++ ['\x22'], .quoted spelled, by rw [List.append_assoc, List.singleton_append]⟩
  · split at h
    · cases h
    · cases h

theorem exists_sign (cs : List Char) :
    ∃ sign, SpellsSign (signPart cs).1 sign ∧ cs = sign ++ (signPart cs).2 := by
  unfold signPart
  split
  · exact ⟨_, .plus, rfl⟩
  · exact ⟨_, .minus, rfl⟩
  · exact ⟨_, .absent, rfl⟩

/-- The digits that are taken are digits, and what follows them is the rest. -/
theorem takeWhile_digits (cs : List Char) :
    (∀ d ∈ cs.takeWhile Char.isDigit, d.isDigit = true) ∧
      cs = cs.takeWhile Char.isDigit ++ cs.drop (cs.takeWhile Char.isDigit).length := by
  constructor
  · intro d hd
    exact List.all_eq_true.mp List.all_takeWhile d hd
  · have prefixed : cs.takeWhile Char.isDigit <+: cs := List.takeWhile_prefix _
    exact (List.prefix_iff_eq_append.mp prefixed).symm

theorem exists_point {cs : List Char} (some : (pointPart cs).1 ≠ some []) :
    ∃ ps, SpellsPoint (pointPart cs).1 ps ∧ cs = ps ++ (pointPart cs).2 := by
  unfold pointPart at some ⊢
  split at some
  · rename_i cs
    obtain ⟨digits, text⟩ := takeWhile_digits cs
    refine ⟨_, .present ⟨?_, digits⟩, congrArg ('.' :: ·) text⟩
    intro none
    exact some (congrArg Option.some none)
  · exact ⟨[], .absent, rfl⟩

theorem exists_of_exponentPart {cs rest : List Char} {exponent : Option (Bool × List Char)}
    (h : exponentPart cs = .ok (exponent, rest)) :
    ∃ es, SpellsExponent exponent es ∧ cs = es ++ rest := by
  unfold exponentPart at h
  split at h
  · cases h
    exact ⟨[], .absent, rfl⟩
  · rename_i c after
    split at h
    · rename_i e
      dsimp only at h
      obtain ⟨sign, signed, text⟩ := exists_sign after
      obtain ⟨digits, text'⟩ := takeWhile_digits (signPart after).2
      split at h
      · cases h
      · rename_i some
        cases h
        refine ⟨_, .present e signed ⟨?_, digits⟩, ?_⟩
        · intro none
          exact some (List.isEmpty_iff.mpr none)
        · rw [List.cons_append, List.append_assoc, ← text', ← text]
    · cases h
      exact ⟨[], .absent, rfl⟩

theorem skip_brokenNumeral (cs : List Char) : (brokenNumeral cs).skip ≠ .ok () := by
  unfold brokenNumeral
  split <;> simp [Tree.skip]

theorem exists_of_numeralTail {negative : Bool} {cs rest : List Char} {tree : Tree}
    (h : numeralTail negative cs = (tree, rest)) (skips : tree.skip = .ok ()) :
    ∃ numeral ds, numeral.negative = negative ∧ tree = .number numeral.number ∧
      SpellsNumeral numeral ds ∧ cs = ds ++ rest := by
  obtain ⟨digits, text⟩ := takeWhile_digits cs
  unfold numeralTail at h
  dsimp only at h
  split at h
  · cases h
    exact absurd skips (skip_brokenNumeral cs)
  rename_i some
  split at h
  · cases h
    cases skips
  rename_i single
  split at h
  · cases h
    exact absurd skips (skip_brokenNumeral _)
  rename_i point
  obtain ⟨ps, fraction, text'⟩ := exists_point point
  split at h
  · rename_i exponent left read
    cases h
    obtain ⟨es, scale, text''⟩ := exists_of_exponentPart read
    refine ⟨_, _, rfl, rfl, .mk ⟨?_, digits⟩ ?_ fraction scale, ?_⟩
    · intro none
      exact some (List.isEmpty_iff.mpr none)
    · intro zero
      have positive : 0 < (cs.takeWhile Char.isDigit).length := by
        cases hd : cs.takeWhile Char.isDigit with
        | nil => exact absurd (List.isEmpty_iff.mpr hd) some
        | cons => exact Nat.succ_pos _
      simp only [zero, Bool.and_eq_true, decide_eq_true_eq, true_and] at single
      omega
    · rw [List.append_assoc, List.append_assoc, ← text'', ← text', ← text]
  · cases h
    exact absurd skips (skip_brokenNumeral _)

/-! ## Values -/

theorem ListStop.skip_eq_ok_iff {stop : ListStop} : stop.skip = .ok () ↔ stop = .closed := by
  cases stop <;> simp [ListStop.skip]

theorem ObjectStop.skip_eq_ok_iff {stop : ObjectStop Tree} :
    stop.skip = .ok () ↔ stop = .closed := by
  cases stop <;> simp [ObjectStop.skip]

theorem skipItems_eq_ok_iff {items : List Tree} :
    skipItems items = .ok () ↔ ∀ item ∈ items, item.skip = .ok () := by
  induction items with
  | nil => simp [skipItems]
  | cons item items ih =>
    rw [skipItems, List.forall_mem_cons, ← ih]
    cases item.skip with
    | error fault => simp [bind, Except.bind]
    | ok _ => simp [bind, Except.bind]

theorem skipMembers_eq_ok_iff {members : List (Except Fault String × Tree)} :
    skipMembers members = .ok () ↔ ∀ member ∈ members, member.2.skip = .ok () := by
  induction members with
  | nil => simp [skipMembers]
  | cons member members ih =>
    obtain ⟨key, tree⟩ := member
    rw [skipMembers, List.forall_mem_cons, ← ih]
    cases tree.skip with
    | error fault => simp [bind, Except.bind]
    | ok _ => simp [bind, Except.bind]

/-- A list can be skipped if its elements can be, and it ends. -/
theorem skip_list_iff {items : List Tree} {stop : ListStop} :
    (Tree.list items stop).skip = .ok () ↔
      (∀ item ∈ items, item.skip = .ok ()) ∧ stop = .closed := by
  rw [Tree.skip, ← skipItems_eq_ok_iff, ← ListStop.skip_eq_ok_iff]
  cases skipItems items with
  | error fault => simp [bind, Except.bind]
  | ok _ => simp [bind, Except.bind]

/-- An object can be skipped if its members can be, and it ends. -/
theorem skip_object_iff {members : List (Except Fault String × Tree)} {stop : ObjectStop Tree} :
    (Tree.object members stop).skip = .ok () ↔
      (∀ member ∈ members, member.2.skip = .ok ()) ∧ stop = .closed := by
  rw [Tree.skip, ← skipMembers_eq_ok_iff, ← ObjectStop.skip_eq_ok_iff]
  cases skipMembers members with
  | error fault => simp [bind, Except.bind]
  | ok _ => simp [bind, Except.bind]

theorem eq_of_word {tree tree' : Tree} {letters cs rest : List Char}
    (h : word tree letters cs = (tree', rest)) (skips : tree'.skip = .ok ()) :
    tree' = tree ∧ cs = letters ++ rest := by
  induction letters generalizing cs with
  | nil =>
    cases h
    exact ⟨rfl, rfl⟩
  | cons l letters ih =>
    cases cs with
    | nil =>
      cases h
      cases skips
    | cons c cs =>
      unfold word at h
      split at h
      · rename_i same
        obtain ⟨rfl, rfl⟩ := ih h
        exact ⟨rfl, by rw [same, List.cons_append]⟩
      · cases h
        cases skips

/-- A gap and the tree come first in the text, and then the rest. -/
def Leads (tree : Tree) (cs rest : List Char) : Prop :=
  ∃ g ds, IsGap g ∧ Spells tree ds ∧ cs = g ++ (ds ++ rest)

/-- A gap, the elements and the end of the list come first in the text, and then the rest. -/
def LeadsElements (items : List Tree) (cs rest : List Char) : Prop :=
  ∃ all g ds, items = all.map Element.value ∧
    (∀ element ∈ all, Spells element.value element.text) ∧ IsGap g ∧
    Separated Element.text all ds ∧ cs = g ++ (ds ++ ']' :: rest)

/-- The members, from behind the first quote, and the end of the object come first in the text, and
then the rest. -/
def LeadsMembers (members : List (Except Fault String × Tree)) (cs rest : List Char) : Prop :=
  ∃ all ds, members = all.map Entry.member ∧ (∀ entry ∈ all, entry.Keyed) ∧
    (∀ entry ∈ all, Spells entry.value entry.valueText) ∧
    Separated Entry.text all ('\x22' :: ds) ∧ cs = ds ++ '\x7d' :: rest

/-- With this count, whatever the reader of values reads whole is spelled in the text. -/
def ReadsValues (n : Nat) : Prop := ∀ ⦃cs tree rest⦄,
  value n cs = (tree, rest) → tree.skip = .ok () → Leads tree cs rest

/-- The same for the reader of elements. -/
def ReadsElements (n : Nat) : Prop := ∀ ⦃cs items rest⦄,
  elements n cs = (items, .closed, rest) → (∀ item ∈ items, item.skip = .ok ()) →
    LeadsElements items cs rest

/-- The same for the reader of members. -/
def ReadsMembers (n : Nat) : Prop := ∀ ⦃cs members rest⦄,
  fields n cs = (members, .closed, rest) → (∀ member ∈ members, member.2.skip = .ok ()) →
    LeadsMembers members cs rest

theorem readsElements_succ {n : Nat} (values : ReadsValues n) (next : ReadsElements n) :
    ReadsElements (n + 1) := by
  intro cs items rest h skips
  unfold elements at h
  generalize read : value n cs = first at h
  obtain ⟨item, rest'⟩ := first
  dsimp only at h
  split at h
  · cases h
  rename_i c rest'' behind
  obtain ⟨g', gap', rfl⟩ := exists_gap_cons behind
  split at h
  · rename_i bracket
    subst bracket
    cases h
    obtain ⟨g, ds, gap, spelled, rfl⟩ := values read (skips item List.mem_cons_self)
    refine ⟨[⟨item, ds⟩], g, ds ++ g', rfl, ?_, gap, .one gap', ?_⟩
    · intro element mem
      obtain rfl := List.mem_singleton.mp mem
      exact spelled
    · rw [List.append_assoc]
  rename_i notBracket
  split at h
  · rename_i comma
    subst comma
    split at h
    · cases h
    rename_i c after behind'
    obtain ⟨g'', gap'', rfl⟩ := exists_gap_cons behind'
    split at h
    · cases h
    · generalize read' : elements n (c :: after) = others at h
      obtain ⟨items', stop, rest'⟩ := others
      cases h
      obtain ⟨g, ds, gap, spelled, rfl⟩ := values read (skips item List.mem_cons_self)
      obtain ⟨all, g₃, ds', rfl, each, gap₃, separated, text⟩ :=
        next read' fun item' mem => skips item' (List.mem_cons_of_mem item mem)
      refine ⟨⟨item, ds⟩ :: all, g, _, rfl, ?_, gap, .more gap' (gap''.append gap₃) separated, ?_⟩
      · intro element mem
        rcases List.mem_cons.mp mem with rfl | mem
        · exact spelled
        · exact each element mem
      · simp only [text, List.append_assoc, List.cons_append]
  · cases h

theorem readsMembers_succ {n : Nat} (values : ReadsValues n) (next : ReadsMembers n) :
    ReadsMembers (n + 1) := by
  intro cs members rest h skips
  unfold fields at h
  split at h
  · cases h
  rename_i key rest₁ read
  obtain ⟨ks, keyed, rfl⟩ := exists_of_chars read
  split at h
  · cases h
  rename_i c rest₂ behind
  obtain ⟨g, gap, rfl⟩ := exists_gap_cons behind
  split at h
  · rename_i colon
    subst colon
    generalize read' : value n rest₂ = first at h
    obtain ⟨tree, rest₃⟩ := first
    dsimp only at h
    split at h
    · cases h
    rename_i c rest₄ behind'
    obtain ⟨g', gap', rfl⟩ := exists_gap_cons behind'
    split at h
    · rename_i brace
      subst brace
      cases h
      obtain ⟨g₀, vs, gap₀, spelled, rfl⟩ := values read' (skips (key, tree) List.mem_cons_self)
      refine ⟨[⟨key, ks, g, g₀, tree, vs⟩], ks ++ (g ++ ':' :: (g₀ ++ vs)) ++ g', rfl, ?_, ?_,
        .one gap', ?_⟩
      · intro entry mem
        obtain rfl := List.mem_singleton.mp mem
        exact ⟨keyed, gap, gap₀⟩
      · intro entry mem
        obtain rfl := List.mem_singleton.mp mem
        exact spelled
      · simp only [List.append_assoc, List.cons_append]
    rename_i notBrace
    split at h
    · rename_i comma
      subst comma
      split at h
      · cases h
      rename_i c after behind''
      obtain ⟨g'', gap'', rfl⟩ := exists_gap_cons behind''
      split at h
      · rename_i quote
        subst quote
        generalize read'' : fields n after = others at h
        obtain ⟨members', stop, rest'⟩ := others
        cases h
        obtain ⟨g₀, vs, gap₀, spelled, rfl⟩ := values read' (skips (key, tree) List.mem_cons_self)
        obtain ⟨all, ds, rfl, keyed', each, separated, rfl⟩ :=
          next read'' fun member mem => skips member (List.mem_cons_of_mem _ mem)
        refine ⟨⟨key, ks, g, g₀, tree, vs⟩ :: all,
          ks ++ (g ++ ':' :: (g₀ ++ vs)) ++ (g' ++ ',' :: (g'' ++ '\x22' :: ds)), rfl, ?_, ?_,
          .more gap' gap'' separated, ?_⟩
        · intro entry mem
          rcases List.mem_cons.mp mem with rfl | mem
          · exact ⟨keyed, gap, gap₀⟩
          · exact keyed' entry mem
        · intro entry mem
          rcases List.mem_cons.mp mem with rfl | mem
          · exact spelled
          · exact each entry mem
        · simp only [List.append_assoc, List.cons_append]
      · split at h
        · cases h
        · cases h
    · cases h
  · cases h

/-- A word of the grammar, and then the rest. -/
theorem leads_of_word {tree tree' : Tree} {g letters cs rest : List Char} {c : Char}
    (gap : IsGap g) (spelled : Spells tree (c :: letters))
    (h : word tree letters cs = (tree', rest)) (skips : tree'.skip = .ok ()) :
    Leads tree' (g ++ c :: cs) rest := by
  obtain ⟨rfl, rfl⟩ := eq_of_word h skips
  exact ⟨g, _, gap, spelled, rfl⟩

theorem readsValues_succ {n : Nat} (elementwise : ReadsElements n) (memberwise : ReadsMembers n) :
    ReadsValues (n + 1) := by
  intro cs tree rest h skips
  unfold value at h
  split at h
  · cases h
    cases skips
  rename_i c rest₁ start
  obtain ⟨g, gap, rfl⟩ := exists_gap_cons start
  split at h
  · rename_i quote
    subst quote
    split at h
    · rename_i text rest₂ read
      cases h
      obtain ⟨ds, string, rfl⟩ := exists_of_chars read
      exact ⟨g, _, gap, .text string, rfl⟩
    · cases h
      cases skips
  split at h
  · rename_i bracket
    subst bracket
    split at h
    · cases h
      cases skips
    rename_i c rest₂ behind
    obtain ⟨g', gap', rfl⟩ := exists_gap_cons behind
    split at h
    · rename_i bracket
      subst bracket
      cases h
      refine ⟨g, _, gap, .emptyList gap', ?_⟩
      simp only [List.append_assoc, List.cons_append, List.nil_append]
    · generalize read : elements n (c :: rest₂) = all at h
      obtain ⟨items, stop, rest₃⟩ := all
      cases h
      obtain ⟨skipped, rfl⟩ := skip_list_iff.mp skips
      obtain ⟨all, g'', ds, rfl, each, gap'', separated, text⟩ := elementwise read skipped
      refine ⟨g, _, gap, .list each (gap'.append gap'') separated, ?_⟩
      simp only [text, List.append_assoc, List.cons_append, List.nil_append]
  split at h
  · rename_i brace
    subst brace
    split at h
    · cases h
      cases skips
    rename_i c rest₂ behind
    obtain ⟨g', gap', rfl⟩ := exists_gap_cons behind
    split at h
    · rename_i brace
      subst brace
      cases h
      refine ⟨g, _, gap, .emptyObject gap', ?_⟩
      simp only [List.append_assoc, List.cons_append, List.nil_append]
    split at h
    · rename_i quote
      subst quote
      generalize read : fields n rest₂ = all at h
      obtain ⟨members, stop, rest₃⟩ := all
      cases h
      obtain ⟨skipped, rfl⟩ := skip_object_iff.mp skips
      obtain ⟨all, ds, rfl, keyed, each, separated, rfl⟩ := memberwise read skipped
      refine ⟨g, _, gap, .object keyed each gap' separated, ?_⟩
      simp only [List.append_assoc, List.cons_append, List.nil_append]
    · cases h
      cases skips
  split at h
  · rename_i n
    subst n
    exact leads_of_word gap .null h skips
  split at h
  · rename_i t
    subst t
    exact leads_of_word gap .isTrue h skips
  split at h
  · rename_i f
    subst f
    exact leads_of_word gap .isFalse h skips
  split at h
  · rename_i minus
    subst minus
    obtain ⟨numeral, ds, negative, rfl, digits, rfl⟩ := exists_of_numeralTail h skips
    exact ⟨g, _, gap, .negative negative digits, rfl⟩
  split at h
  · obtain ⟨numeral, ds, positive, rfl, digits, text⟩ := exists_of_numeralTail h skips
    exact ⟨g, ds, gap, .number positive digits, by rw [text]⟩
  · cases h
    cases skips

/-- **Whatever the reader reads whole is spelled in the text**, with every count. -/
theorem reads_whole (n : Nat) : ReadsValues n ∧ ReadsElements n ∧ ReadsMembers n := by
  induction n with
  | zero =>
    refine ⟨?_, ?_, ?_⟩
    · intro cs tree rest h skips
      cases h
      cases skips
    · intro cs items rest h
      cases h
    · intro cs members rest h
      cases h
  | succ n ih =>
    obtain ⟨values, elementwise, memberwise⟩ := ih
    exact ⟨readsValues_succ elementwise memberwise, readsElements_succ values elementwise,
      readsMembers_succ values memberwise⟩

/-- **A text that was read whole spells what was read.** -/
theorem spelledBy_of_ofText {tree : Tree} {s : String} (h : Tree.ofText s = (tree, []))
    (skips : tree.skip = .ok ()) : tree.SpelledBy s := by
  unfold Tree.ofText at h
  dsimp only at h
  generalize read : value (2 * s.toList.length + 2) s.toList = pair at h
  obtain ⟨tree', rest⟩ := pair
  dsimp only at h
  obtain ⟨rfl, behind⟩ := Prod.mk.inj h
  obtain ⟨g, ds, gap, spelled, text⟩ := (reads_whole _).1 read skips
  obtain ⟨g', gap', text'⟩ := exists_gap rest
  rw [behind, List.append_nil] at text'
  exact ⟨g, ds, g', gap, spelled, gap', text'.symm ▸ text⟩

/-! ## Part by part -/

/-- A well-formed value can be skipped. -/
theorem skip_of_spells {tree : Tree} {cs : List Char} (h : Spells tree cs) :
    tree.skip = .ok () := by
  induction h with
  | null => rfl
  | isTrue => rfl
  | isFalse => rfl
  | number => rfl
  | negative => rfl
  | text => rfl
  | emptyList => rfl
  | list each gap separated skips =>
    refine skip_list_iff.mpr ⟨?_, rfl⟩
    intro item mem
    obtain ⟨element, mem', rfl⟩ := List.mem_map.mp mem
    exact skips element mem'
  | emptyObject => rfl
  | object keyed each gap separated skips =>
    refine skip_object_iff.mpr ⟨?_, rfl⟩
    intro member mem
    obtain ⟨entry, mem', rfl⟩ := List.mem_map.mp mem
    exact skips entry mem'

/-- The key is that of some string. -/
def IsKey (key : Except Fault String) : Prop := ∃ cs, SpellsString key cs

theorem wellFormed_null : Tree.null.WellFormed := ⟨_, .null⟩

/-- A list is well formed if its elements are. -/
theorem wellFormed_list_iff {items : List Tree} :
    (Tree.list items .closed).WellFormed ↔ ∀ item ∈ items, item.WellFormed := by
  constructor
  · rintro ⟨cs, spelled⟩ item mem
    cases spelled with
    | emptyList => cases mem
    | list each =>
      obtain ⟨element, mem', rfl⟩ := List.mem_map.mp mem
      exact ⟨element.text, each element mem'⟩
  · intro wellFormed
    obtain ⟨all, rfl, each⟩ : ∃ all : List Element, items = all.map Element.value ∧
        ∀ element ∈ all, Spells element.value element.text := by
      induction items with
      | nil => exact ⟨[], rfl, by simp⟩
      | cons item items ih =>
        obtain ⟨⟨cs, spelled⟩, others⟩ := List.forall_mem_cons.mp wellFormed
        obtain ⟨all, rfl, each⟩ := ih others
        exact ⟨⟨item, cs⟩ :: all, rfl, List.forall_mem_cons.mpr ⟨spelled, each⟩⟩
    exact ⟨_, spells_list each⟩

/-- An object is well formed if its keys are keys and its values are well formed. -/
theorem wellFormed_object_iff {members : List (Except Fault String × Tree)} :
    (Tree.object members .closed).WellFormed ↔
      ∀ member ∈ members, IsKey member.1 ∧ member.2.WellFormed := by
  constructor
  · rintro ⟨cs, spelled⟩ member mem
    cases spelled with
    | emptyObject => cases mem
    | object keyed each =>
      obtain ⟨entry, mem', rfl⟩ := List.mem_map.mp mem
      exact ⟨⟨entry.keyText, (keyed entry mem').key⟩, ⟨entry.valueText, each entry mem'⟩⟩
  · intro wellFormed
    obtain ⟨all, rfl, keyed, each⟩ : ∃ all : List Entry, members = all.map Entry.member ∧
        (∀ entry ∈ all, entry.Keyed) ∧ ∀ entry ∈ all, Spells entry.value entry.valueText := by
      induction members with
      | nil => exact ⟨[], rfl, by simp, by simp⟩
      | cons member members ih =>
        obtain ⟨⟨⟨ks, key⟩, ⟨cs, spelled⟩⟩, others⟩ := List.forall_mem_cons.mp wellFormed
        obtain ⟨all, rfl, keyed, each⟩ := ih others
        exact ⟨⟨member.1, ks, [], [], member.2, cs⟩ :: all, rfl,
          List.forall_mem_cons.mpr ⟨⟨key, isGap_nil, isGap_nil⟩, keyed⟩,
          List.forall_mem_cons.mpr ⟨spelled, each⟩⟩
    exact ⟨_, spells_object keyed each⟩

/-- A well-formed value has a text. -/
theorem exists_text {tree : Tree} (h : tree.WellFormed) : ∃ s, tree.SpelledBy s := by
  obtain ⟨cs, spelled⟩ := h
  refine ⟨String.ofList cs, [], cs, [], isGap_nil, spelled, isGap_nil, ?_⟩
  rw [String.toList_ofList, List.append_nil, List.nil_append]

end LeagueWager.Json
