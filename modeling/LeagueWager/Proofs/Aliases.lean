import LeagueWager.Proofs.Clubs
import LeagueWager.Proofs.Ends
import LeagueWager.Proofs.Rows

/-!
# Either name of a club

A wager may call a club by its short name or by the name it is shown under. As long as the data use
short names only, that is all the same: both names are names of the same clubs, so each read finds
the same record, each projection comes to the same figures, and each row says the same under
another name.

* `Alias.iff_displayName_eq`: two names may stand for each other exactly if they are shown alike;
* `Team.answersTo_iff_of_isShort`: what a club answers to, if its short name is one;
* `Snapshot.reads_unnamed`, `Settlement.all_unnamed`: names change nothing but names;
* `Snapshot.settle_unnamed`: what a settlement comes to;
* `Snapshot.aliases_interchangeable`: all of it together.
-/

namespace LeagueWager

/-! ## Names of one club -/

/-- A name that may be written in place of another. -/
inductive Alias : String → String → Prop where
  | same (name : String) : Alias name name
  /-- A short name, or any other, gives way to the name it is shown under. -/
  | shown (name : String) : Alias name (displayName name)
  /-- A name that a short name is shown under gives way to the short name. -/
  | short {short shown : String} (listed : (short, shown) ∈ displayNames) : Alias shown short

theorem displayName_inj_of_mem {short other shown : String} (h : (short, shown) ∈ displayNames)
    (h' : (other, shown) ∈ displayNames) : short = other := by
  have apart : ∀ p ∈ displayNames, ∀ q ∈ displayNames, p.2 = q.2 → p.1 = q.1 := by decide
  exact apart _ h _ h' rfl

/-- **Two names may stand for each other exactly if they are shown alike.** -/
theorem Alias.iff_displayName_eq {a b : String} : Alias a b ↔ displayName a = displayName b := by
  constructor
  · intro h
    cases h with
    | same => rfl
    | shown => exact (displayName_idem a).symm
    | short listed => rw [← displayName_of_mem listed, displayName_idem]
  · intro h
    -- each of the two is shown as it is, or is a short name of the list
    rcases displayName_eq_or_mem a with ha | ha
    · rcases displayName_eq_or_mem b with hb | hb
      · rw [ha, hb] at h
        rw [h]
        exact .same b
      · rw [← h, ha] at hb
        exact .short hb
    · rcases displayName_eq_or_mem b with hb | hb
      · rw [hb] at h
        rw [← h]
        exact .shown a
      · rw [← h] at hb
        rw [displayName_inj_of_mem ha hb]
        exact .same b

theorem Alias.symm {a b : String} (h : Alias a b) : Alias b a :=
  Alias.iff_displayName_eq.mpr (Alias.iff_displayName_eq.mp h).symm

/-- The team's short name is not one that a short name is shown under. -/
def Team.IsShort (team : Team) : Prop := team.shortName ∉ displayNames.map (·.2)

instance (team : Team) : Decidable team.IsShort := inferInstanceAs (Decidable (_ ∉ _))

/-- **A team with a short name answers to the names that are shown as it is.** -/
theorem Team.answersTo_iff_of_isShort {team : Team} (short : team.IsShort) {name : String} :
    team.answersTo name = true ↔ team.displayName = LeagueWager.displayName name := by
  rw [answersTo_iff]
  constructor
  · rintro (rfl | rfl)
    · rfl
    · exact (displayName_idem team.shortName).symm
  · intro h
    have alike : Alias team.shortName name := Alias.iff_displayName_eq.mpr h
    generalize hs : team.shortName = given at alike
    cases alike with
    | same => exact .inl rfl
    | shown => exact .inr (by rw [Team.displayName, hs])
    | short listed =>
      refine absurd (List.mem_map.mpr ⟨_, listed, ?_⟩) short
      exact hs.symm

section

variable {a b a' b' : String}

theorem Team.answersTo_alias {team : Team} (short : team.IsShort) (h : Alias a b) :
    team.answersTo b = team.answersTo a := by
  have alike := Alias.iff_displayName_eq.mp h
  rw [Bool.eq_iff_iff, answersTo_iff_of_isShort short, answersTo_iff_of_isShort short, alike]

/-- Both sides of the fixture have short names. -/
structure Fixture.IsShort (fixture : Fixture) : Prop where
  homeTeam : fixture.homeTeam.IsShort
  awayTeam : fixture.awayTeam.IsShort

namespace Fixture

variable {fixture : Fixture} (short : fixture.IsShort)

include short

theorem involves_alias (h : Alias a b) : fixture.involves b = fixture.involves a := by
  unfold involves
  rw [Team.answersTo_alias short.homeTeam h, Team.answersTo_alias short.awayTeam h]

theorem isBetween_alias (h : Alias a a') (h' : Alias b b') :
    fixture.isBetween a' b' = fixture.isBetween a b := by
  unfold isBetween
  rw [Team.answersTo_alias short.homeTeam h, Team.answersTo_alias short.awayTeam h,
    Team.answersTo_alias short.homeTeam h', Team.answersTo_alias short.awayTeam h']

theorem pointsFor_alias (h : Alias a b) : fixture.pointsFor b = fixture.pointsFor a := by
  unfold pointsFor
  rw [Team.answersTo_alias short.homeTeam h, Team.answersTo_alias short.awayTeam h]

end Fixture

end

/-! ## What is left without names -/

/-- The failure, whatever the team is called. -/
def ReadError.unnamed : ReadError → ReadError
  | .unavailable reason => .unavailable reason
  | .notFound kind _ => .notFound kind ""
  | .undecodable reason => .undecodable reason

/-- The outcome of a read, whatever the team is called. -/
def Read.unnamed {α : Type} : Read α → Read α
  | .value a => .value a
  | .failed e => .failed e.unnamed
  | .crashed message => .crashed message

/-- The outcomes of three reads, whatever the teams are called. -/
def Reads.unnamed (reads : Reads) : Reads :=
  ⟨reads.leagueEntry.unnamed, reads.headToHead.unnamed, reads.latestMatch.unnamed⟩

/-- The failure, whatever the team is called. -/
def Failure.unnamed : Failure → Failure
  | .fetch kind _ source => .fetch kind "" source.unnamed
  | .crashed message => .crashed message

/-- The projection, whatever the team is called. -/
def Projection.unnamed (p : Projection) : Projection := { p with teamName := "" }

/-- The row without its column for the team's name. -/
def SettlementRow.unnamed (r : SettlementRow) : SettlementRow := { r with teamName := "" }

/-- What was gathered, whatever the teams are called; `strip` takes the names from its values. -/
def Gathered.unnamed {α : Type} (strip : α → α) : Gathered α → Gathered α
  | .all a => .all (strip a)
  | .failed first others => .failed first.unnamed (others.map Failure.unnamed)

/-- The outcome of a run, whatever the teams are called; `strip` takes the names from its values. -/
def Run.unnamed {α : Type} (strip : α → α) : Run α → Run α
  | .done a => .done (strip a)
  | .failed first others => .failed first.unnamed (others.map Failure.unnamed)
  | .overflow cause => .overflow cause

theorem Gathered.unnamed_both {α β : Type} (s : α → α) (t : β → β) (x : Gathered α)
    (y : Gathered β) : (x.both y).unnamed (Prod.map s t) = (x.unnamed s).both (y.unnamed t) := by
  cases x <;> cases y <;> simp [both, unnamed]

theorem Gathered.head?_unnamed {α : Type} {s : α → α} {x y : Gathered α}
    (h : y.unnamed s = x.unnamed s) :
    y.failures.head?.map Failure.unnamed = x.failures.head?.map Failure.unnamed := by
  cases x <;> cases y <;> simp_all [unnamed, failures]

/-- What is computed from values that are the same but for names is the same but for names. -/
theorem Gathered.unnamed_run {α β : Type} {s : α → α} {t : β → β} {x y : Gathered α}
    {f g : α → Except Overflow β} (h : y.unnamed s = x.unnamed s)
    (computed : ∀ a b, x = .all a → s b = s a → (g b).map t = (f a).map t) :
    (y.run g).unnamed t = (x.run f).unnamed t := by
  cases x with
  | failed first others =>
    cases y with
    | failed first' others' =>
      rw [unnamed, unnamed, failed.injEq] at h
      unfold run Run.unnamed
      dsimp only
      rw [h.1, h.2]
    | all b => cases h
  | all a =>
    cases y with
    | failed first' others' => cases h
    | all b =>
      have same := computed a b rfl (all.inj h)
      unfold run
      dsimp only
      cases hf : f a <;> cases hg : g b <;> rw [hf, hg] at same <;>
        simp_all [Except.map, Run.unnamed]

/-! ## Reads -/

namespace Snapshot

/-- Every team of the snapshot has a short name. -/
structure IsShort (snapshot : Snapshot) : Prop where
  table : ∀ row ∈ snapshot.table, row.team.IsShort
  fixtures : ∀ f ∈ snapshot.fixtures, f.IsShort

variable {snapshot : Snapshot} {a b a' b' : String} {now : Instant}

theorem leagueEntry_alias (short : snapshot.IsShort) (h : Alias a b) :
    (Read.ofExcept (leagueEntry snapshot.table b)).unnamed
      = (Read.ofExcept (leagueEntry snapshot.table a)).unnamed := by
  have found : snapshot.table.find? (fun row => row.team.answersTo b)
      = snapshot.table.find? fun row => row.team.answersTo a := by
    rw [← List.head?_filter, ← List.head?_filter]
    congr 1
    exact List.filter_congr fun row hr => Team.answersTo_alias (short.table row hr) h
  unfold leagueEntry
  rw [found]
  cases snapshot.table.find? fun row => row.team.answersTo a <;> rfl

theorem headToHead_alias (short : snapshot.IsShort) (h : Alias a a') (h' : Alias b b') :
    headToHead snapshot.fixtures a' b' = headToHead snapshot.fixtures a b :=
  List.filter_congr fun f hf => Fixture.isBetween_alias (short.fixtures f hf) h h'

theorem latest?_alias (short : snapshot.IsShort) (h : Alias a b) :
    latest? snapshot.fixtures b now = latest? snapshot.fixtures a now := by
  have started : snapshot.fixtures.filter (hasStarted b now)
      = snapshot.fixtures.filter (hasStarted a now) :=
    List.filter_congr fun f hf => by
      unfold hasStarted
      rw [Fixture.involves_alias (short.fixtures f hf) h]
  unfold latest?
  rw [started]

theorem latestMatch_alias (short : snapshot.IsShort) (h : Alias a b) :
    (Read.ofExcept (latestMatch snapshot.fixtures b now)).unnamed
      = (Read.ofExcept (latestMatch snapshot.fixtures a now)).unnamed := by
  unfold latestMatch
  rw [latest?_alias short h]
  cases latest? snapshot.fixtures a now <;> rfl

end Snapshot

/-! ## From reads to rows -/

/-- The same party, with each team under one of its names. -/
structure Assignment.Alike (assignment other : Assignment) : Prop where
  team : Alias assignment.team other.team
  player : other.player = assignment.player
  first : Alias assignment.opponents.1 other.opponents.1
  second : Alias assignment.opponents.2 other.opponents.2

theorem Assignment.Alike.symm {assignment other : Assignment} (h : assignment.Alike other) :
    other.Alike assignment :=
  ⟨h.team.symm, h.player.symm, h.first.symm, h.second.symm⟩

/-- A projection is built of names only where the running match is backed out. -/
theorem Projection.build_unnamed {rules : Rules} {assignment other : Assignment}
    (player : other.player = assignment.player) {row : Standing} {fixtures : List Fixture}
    {latest : Fixture} (points : latest.pointsFor other.team = latest.pointsFor assignment.team) :
    (build rules other row fixtures latest).map unnamed
      = (build rules assignment row fixtures latest).map unnamed := by
  unfold build
  rw [player, points]
  cases Checked.sub rules.seasonLength row.playedGames with
  | error cause => rfl
  | ok toPlay =>
    dsimp only [bind, Except.bind]
    split
    · cases Checked.sub row.points (latest.pointsFor assignment.team) with
      | error cause => rfl
      | ok adjusted => cases Checked.add (max toPlay 0) 1 <;> rfl
    · rfl

namespace Snapshot

variable {snapshot : Snapshot} {now : Instant} {assignment other : Assignment}

/-- **Each read finds the same record under either name.** -/
theorem reads_unnamed (short : snapshot.IsShort) (alike : assignment.Alike other) :
    (Reads.ofProvider (snapshot.provider now) other).unnamed
      = (Reads.ofProvider (snapshot.provider now) assignment).unnamed := by
  unfold Reads.unnamed
  rw [Reads.mk.injEq]
  refine ⟨leagueEntry_alias short alike.team, ?_, latestMatch_alias short alike.team⟩
  exact congrArg Read.value (headToHead_alias short alike.first alike.second)

end Snapshot

namespace Reads

variable {assignment other : Assignment} {reads reads' : Reads}

/-- A failure that is gathered names the kind of the read and the team, and nothing else of it. -/
theorem gathered_unnamed {α : Type} {kind : FetchKind} {team team' : String} {read read' : Read α}
    (h : read'.unnamed = read.unnamed) :
    (gathered kind team' read').unnamed id = (gathered kind team read).unnamed id := by
  cases read <;> cases read' <;>
    simp_all [Read.unnamed, gathered, Gathered.unnamed, Failure.unnamed]

/-- **What the reads bring together depends on names only in what is said of failures.** -/
theorem gather_unnamed (h : reads'.unnamed = reads.unnamed) :
    (reads'.gather other).unnamed id = (reads.gather assignment).unnamed id := by
  unfold Reads.unnamed at h
  rw [Reads.mk.injEq] at h
  obtain ⟨row, fixtures, latest⟩ := h
  have nested : (id : Standing × List Fixture × Fixture → _) = Prod.map id (Prod.map id id) := rfl
  unfold gather
  rw [nested, Gathered.unnamed_both, Gathered.unnamed_both, Gathered.unnamed_both,
    Gathered.unnamed_both, gathered_unnamed row, gathered_unnamed fixtures, gathered_unnamed latest]

theorem failure?_unnamed (h : reads'.unnamed = reads.unnamed) (kind : FetchKind) :
    (reads'.failure? other kind).map Failure.unnamed
      = (reads.failure? assignment kind).map Failure.unnamed := by
  unfold Reads.unnamed at h
  rw [Reads.mk.injEq] at h
  obtain ⟨row, fixtures, latest⟩ := h
  cases kind with
  | leagueEntry => exact Gathered.head?_unnamed (gathered_unnamed row)
  | headToHead => exact Gathered.head?_unnamed (gathered_unnamed fixtures)
  | latestMatch => exact Gathered.head?_unnamed (gathered_unnamed latest)

variable {rules : Rules}

/-- **A party's projection is built, fails or overflows under either name.** -/
theorem project_unnamed (h : reads'.unnamed = reads.unnamed)
    (player : other.player = assignment.player)
    (points : ∀ latest, reads.latestMatch = .value latest →
      latest.pointsFor other.team = latest.pointsFor assignment.team) :
    (reads'.project rules other).unnamed Projection.unnamed
      = (reads.project rules assignment).unnamed Projection.unnamed := by
  refine Gathered.unnamed_run (gather_unnamed h) ?_
  rintro ⟨row, fixtures, latest⟩ _ found rfl
  have values := gather_eq_all_iff.mp found
  exact Projection.build_unnamed player (points latest values.2.2)

theorem party_unnamed (h : (reads'.project rules other).unnamed Projection.unnamed
      = (reads.project rules assignment).unnamed Projection.unnamed) :
    (reads'.party rules other).unnamed Projection.unnamed
      = (reads.party rules assignment).unnamed Projection.unnamed := by
  unfold party
  cases hp : reads.project rules assignment <;> cases hq : reads'.project rules other <;>
    simp_all [Run.unnamed, Gathered.unnamed]

end Reads

namespace Settlement

variable {rules : Rules}

/-- A row is made of the name of its own team only where it shows it. -/
theorem row_unnamed (own a b : Projection) :
    row rules own.unnamed a.unnamed b.unnamed = (row rules own a b).map SettlementRow.unnamed := by
  have owedA : owed rules own.unnamed a.unnamed = owed rules own a := rfl
  have owedB : owed rules own.unnamed b.unnamed = owed rules own b := rfl
  have best : bestCase rules own.unnamed a.unnamed b.unnamed = bestCase rules own a b := rfl
  have worst : worstCase rules own.unnamed a.unnamed b.unnamed = worstCase rules own a b := rfl
  have net : netBalance rules own.unnamed a.unnamed b.unnamed = netBalance rules own a b := rfl
  have name : Text.lower own.unnamed.teamName = "" := Text.lower_nil
  unfold row
  rw [owedA, owedB, best, worst, net, name]
  -- each figure ends both rows or neither
  cases owed rules own a with
  | error cause => rfl
  | ok amountA => cases owed rules own b with
    | error cause => rfl
    | ok amountB => cases bestCase rules own a b with
      | error cause => rfl
      | ok best => cases worstCase rules own a b with
        | error cause => rfl
        | ok worst => cases netBalance rules own a b <;> rfl

theorem ranked_unnamed (rows : List SettlementRow) :
    ranked (rows.map SettlementRow.unnamed) = (ranked rows).map SettlementRow.unnamed := by
  unfold ranked
  refine (List.map_mergeSort ?_).symm
  intro x _ y _
  rfl

/-- **The ranked rows are the same, whatever the teams are called.** -/
theorem all_unnamed (parties : Trio Projection) :
    all rules (parties.map Projection.unnamed)
      = (all rules parties).map (List.map SettlementRow.unnamed) := by
  unfold all Trio.map
  dsimp only
  rw [row_unnamed, row_unnamed, row_unnamed]
  cases row rules parties.first parties.second parties.third with
  | error cause => rfl
  | ok first => cases row rules parties.second parties.first parties.third with
    | error cause => rfl
    | ok second => cases row rules parties.third parties.first parties.second with
      | error cause => rfl
      | ok third => exact congrArg Except.ok (ranked_unnamed [first, second, third])

end Settlement

/-! ## The settlement -/

/-- What one run leaves open, the other does. -/
theorem Run.exists_allows_unnamed {α : Type} {s : α → α} {run run' one : Run α}
    (h : run'.unnamed s = run.unnamed s) (allows : run.Allows one) :
    ∃ one', run'.Allows one' ∧ one'.unnamed s = one.unnamed s := by
  cases run with
  | failed first others =>
    obtain ⟨f, hf, rfl⟩ := allows
    cases run' with
    | failed first' others' =>
      rw [unnamed, unnamed, failed.injEq, ← List.cons.injEq, ← List.map_cons, ← List.map_cons] at h
      -- the failure that is reported has its match among those of the other run
      have mem : f.unnamed ∈ (first' :: others').map Failure.unnamed := by
        rw [h]
        exact List.mem_map.mpr ⟨f, hf, rfl⟩
      obtain ⟨f', hf', same⟩ := List.mem_map.mp mem
      refine ⟨.failed f' [], ⟨f', hf', rfl⟩, ?_⟩
      rw [unnamed, unnamed, same]
    | done a => cases h
    | overflow cause => cases h
  | done a =>
    obtain rfl := allows
    cases run' with
    | done a' => exact ⟨.done a', rfl, h⟩
    | failed first' others' => cases h
    | overflow cause => cases h
  | overflow cause =>
    obtain rfl := allows
    cases run' with
    | failed first' others' => cases h
    | done a' => cases h
    | overflow cause' => exact ⟨.overflow cause', rfl, h⟩

namespace Snapshot

variable {snapshot : Snapshot} {now : Instant} {rules : Rules}

theorem project_unnamed (short : snapshot.IsShort) {assignment other : Assignment}
    (alike : assignment.Alike other) :
    ((snapshot.provider now).project rules other).unnamed Projection.unnamed
      = ((snapshot.provider now).project rules assignment).unnamed Projection.unnamed := by
  refine Reads.project_unnamed (reads_unnamed short alike) alike.player ?_
  intro latest found
  -- the latest fixture is one of the snapshot's, so its sides have short names
  have mem := (mem_of_latestMatch (Read.ofExcept_eq_value_iff.mp found)).1
  exact Fixture.pointsFor_alias (short.fixtures latest mem) alike.team

section

variable {assignments others : Trio Assignment} (short : snapshot.IsShort)
  (alike : ∀ seat, (assignments.get seat).Alike (others.get seat))

include short alike

theorem settle_unnamed : ((snapshot.provider now).settle rules others).unnamed
      (List.map SettlementRow.unnamed)
    = ((snapshot.provider now).settle rules assignments).unnamed
      (List.map SettlementRow.unnamed) := by
  have party (seat : Seat) :
      ((Reads.ofProvider (snapshot.provider now) (others.get seat)).party rules
          (others.get seat)).unnamed Projection.unnamed
        = ((Reads.ofProvider (snapshot.provider now) (assignments.get seat)).party rules
          (assignments.get seat)).unnamed Projection.unnamed :=
    Reads.party_unnamed (project_unnamed short (alike seat))
  have first := party .first
  have second := party .second
  have third := party .third
  refine Gathered.unnamed_run
    (s := Prod.map Projection.unnamed (Prod.map Projection.unnamed Projection.unnamed)) ?_ ?_
  · unfold Reads.parties
    rw [Gathered.unnamed_both, Gathered.unnamed_both, Gathered.unnamed_both, Gathered.unnamed_both]
    exact congrArg₂ Gathered.both first (congrArg₂ Gathered.both second third)
  · rintro ⟨p, q, r⟩ ⟨p', q', r'⟩ _ same
    obtain ⟨hp, hq, hr⟩ : p'.unnamed = p.unnamed ∧ q'.unnamed = q.unnamed ∧
        r'.unnamed = r.unnamed := by
      simpa [Prod.map] using same
    have unnamed : (⟨p', q', r'⟩ : Trio Projection).map Projection.unnamed
        = (⟨p, q, r⟩ : Trio Projection).map Projection.unnamed := by
      unfold Trio.map
      rw [hp, hq, hr]
    rw [← Settlement.all_unnamed, ← Settlement.all_unnamed, unnamed]

/-- Whatever some order of the tasks comes to, some order comes to under the other names. -/
theorem exists_endsWith_unnamed {x : Except Failure (Trio Projection)}
    (ends : Course.EndsWith rules assignments
      (assignments.map (Reads.ofProvider (snapshot.provider now))) Course.allReturn x) :
    ∃ x', Course.EndsWith rules others (others.map (Reads.ofProvider (snapshot.provider now)))
        Course.allReturn x' ∧
      (Course.rows rules x').unnamed (List.map SettlementRow.unnamed)
        = (Course.rows rules x).unnamed (List.map SettlementRow.unnamed) := by
  have returns : ∀ read, Course.allReturn read := fun _ => trivial
  have allows := (Course.endsWith_iff_settle returns).mp ⟨x, ends, rfl⟩
  obtain ⟨one, allows', same⟩ := Run.exists_allows_unnamed (settle_unnamed short alike) allows
  obtain ⟨x', ends', rfl⟩ := (Course.endsWith_iff_settle returns).mpr allows'
  exact ⟨x', ends', same⟩

end

/-- **Either name of a club will do.** Take a snapshot whose teams all have short names, and two
settlements of the same parties with each team under any of its names. Each read finds the same
record in both, or misses it in both. Each party's projection is built in both, fails in both or
overflows in both, with the same figures; and so does the settlement, whose rows differ only in the
column for the team's name. Whatever some order of the tasks comes to in one, some order comes to in
the other. -/
theorem aliases_interchangeable (short : snapshot.IsShort) (now : Instant) (rules : Rules)
    {assignments others : Trio Assignment}
    (alike : ∀ seat, (assignments.get seat).Alike (others.get seat)) :
    (∀ seat, (Reads.ofProvider (snapshot.provider now) (others.get seat)).unnamed
      = (Reads.ofProvider (snapshot.provider now) (assignments.get seat)).unnamed) ∧
    (∀ seat kind,
      ((Reads.ofProvider (snapshot.provider now) (others.get seat)).failure?
          (others.get seat) kind).map Failure.unnamed
        = ((Reads.ofProvider (snapshot.provider now) (assignments.get seat)).failure?
          (assignments.get seat) kind).map Failure.unnamed) ∧
    (∀ seat, ((snapshot.provider now).project rules (others.get seat)).unnamed Projection.unnamed
      = ((snapshot.provider now).project rules (assignments.get seat)).unnamed
        Projection.unnamed) ∧
    ((snapshot.provider now).settle rules others).unnamed (List.map SettlementRow.unnamed)
      = ((snapshot.provider now).settle rules assignments).unnamed
        (List.map SettlementRow.unnamed) ∧
    ∀ told : Run (List SettlementRow),
      (∃ x, Course.EndsWith rules others (others.map (Reads.ofProvider (snapshot.provider now)))
          Course.allReturn x ∧
        (Course.rows rules x).unnamed (List.map SettlementRow.unnamed) = told) ↔
      ∃ x, Course.EndsWith rules assignments
          (assignments.map (Reads.ofProvider (snapshot.provider now))) Course.allReturn x ∧
        (Course.rows rules x).unnamed (List.map SettlementRow.unnamed) = told := by
  have back (seat : Seat) : (others.get seat).Alike (assignments.get seat) := (alike seat).symm
  refine ⟨fun seat => reads_unnamed short (alike seat), ?_,
    fun seat => project_unnamed short (alike seat), settle_unnamed short alike, ?_⟩
  · intro seat kind
    exact Reads.failure?_unnamed (reads_unnamed short (alike seat)) kind
  · intro told
    constructor
    · rintro ⟨x, ends, rfl⟩
      exact exists_endsWith_unnamed short back ends
    · rintro ⟨x, ends, rfl⟩
      exact exists_endsWith_unnamed short alike ends

/-- Two of three clubs are shown under other names, and one of the two is playing. -/
def shownOtherwise : Snapshot where
  table := [.ofGames "Liverpool" 28 40, .ofGames "Wolverhampton" 29 40, .ofGames "Nottingham" 28 35]
  fixtures := [.onDay 1 "Liverpool" "Everton" .finished, .onDay 2 "Nottingham" "Arsenal" .finished,
    .onDay 3 "Wolverhampton" "Everton" .inPlay, .onDay 9 "Nottingham" "Wolverhampton" .timed]

/-- The three parties by short names. -/
def shortParties : Trio Assignment := ⟨
  ⟨"Liverpool", "Steve", "Wolverhampton", "Nottingham"⟩,
  ⟨"Wolverhampton", "Tim", "Liverpool", "Nottingham"⟩,
  ⟨"Nottingham", "Thommo", "Liverpool", "Wolverhampton"⟩⟩

/-- The three parties, with names that are shown in some places. -/
def mixedParties : Trio Assignment := ⟨
  ⟨"Liverpool", "Steve", "Wolves", "Nottingham"⟩,
  ⟨"Wolves", "Tim", "Liverpool", "Notts Forest"⟩,
  ⟨"Notts Forest", "Thommo", "Liverpool", "Wolverhampton"⟩⟩

theorem isShort_shownOtherwise : shownOtherwise.IsShort where
  table := by decide
  fixtures := by
    intro f hf
    have all : ∀ f ∈ shownOtherwise.fixtures, f.homeTeam.IsShort ∧ f.awayTeam.IsShort := by decide
    exact ⟨(all f hf).1, (all f hf).2⟩

theorem alike_mixedParties (seat : Seat) :
    (shortParties.get seat).Alike (mixedParties.get seat) := by
  have shown : ∀ seat : Seat,
      displayName (shortParties.get seat).team = displayName (mixedParties.get seat).team ∧
      (mixedParties.get seat).player = (shortParties.get seat).player ∧
      displayName (shortParties.get seat).opponents.1
        = displayName (mixedParties.get seat).opponents.1 ∧
      displayName (shortParties.get seat).opponents.2
        = displayName (mixedParties.get seat).opponents.2 := by decide
  obtain ⟨team, player, first, second⟩ := shown seat
  exact ⟨Alias.iff_displayName_eq.mpr team, player, Alias.iff_displayName_eq.mpr first,
    Alias.iff_displayName_eq.mpr second⟩

theorem aliases_interchangeable_mixedParties :
    shownOtherwise.IsShort ∧ (∀ seat, (shortParties.get seat).Alike (mixedParties.get seat)) ∧
      ∃ rows, (shownOtherwise.provider (.midnight 4)).settle .standard shortParties = .done rows ∧
        ((shownOtherwise.provider (.midnight 4)).settle .standard mixedParties).unnamed
            (List.map SettlementRow.unnamed) = .done (rows.map SettlementRow.unnamed) := by
  obtain ⟨rows, done⟩ : ∃ rows,
      (shownOtherwise.provider (.midnight 4)).settle .standard shortParties = .done rows :=
    Run.exists_of_isDone (by decide +kernel)
  obtain ⟨_, _, _, settled, _⟩ := aliases_interchangeable isShort_shownOtherwise (.midnight 4)
    .standard alike_mixedParties
  rw [done] at settled
  exact ⟨isShort_shownOtherwise, alike_mixedParties, rows, done, settled⟩

end Snapshot

end LeagueWager
