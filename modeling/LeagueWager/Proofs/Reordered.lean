import LeagueWager.Proofs.Figures
import LeagueWager.Proofs.Ranking
import Mathlib.Logic.Equiv.Basic

/-!
# The order of the parties

A configuration lists its parties in some order. The order decides which rival a party's row has in
its first column, which way round the fixtures between two rivals are asked for, and which of two
level parties stands first. It changes nobody's money.

* `Config.reads_reordered`: each party's reads come to the same, read of the same snapshot;
* `Settlement.eq_swapped_of_rows`: a row changes its columns with the order of the rivals;
* `Settlement.map_points_eq`: two rankings differ only among level parties;
* `Config.rows_reordered`: all of it together.
-/

namespace LeagueWager

attribute [ext] SettlementRow

/-- The row with its two columns exchanged. -/
def SettlementRow.swapped (r : SettlementRow) : SettlementRow :=
  { r with oweA := r.oweB, amountA := r.amountB, oweB := r.oweA, amountB := r.amountA }

/-- Rivals stay rivals of the same party, in one order or the other. -/
theorem Seat.rivals_perm (σ : Equiv.Perm Seat) (seat : Seat) :
    (σ seat.rivals.1 = (σ seat).rivals.1 ∧ σ seat.rivals.2 = (σ seat).rivals.2) ∨
      (σ seat.rivals.1 = (σ seat).rivals.2 ∧ σ seat.rivals.2 = (σ seat).rivals.1) := by
  have others : ∀ own a b : Seat, own ≠ a → own ≠ b → a ≠ b →
      (a = own.rivals.1 ∧ b = own.rivals.2) ∨ (a = own.rivals.2 ∧ b = own.rivals.1) := by decide
  obtain ⟨first, second, both⟩ := seat.rivals_ne
  exact others _ _ _ (σ.injective.ne first) (σ.injective.ne second) (σ.injective.ne both)

/-! ## The reads -/

theorem Projection.build_eq_of_same {rules : Rules} {assignment other : Assignment}
    (team : assignment.team = other.team) (player : assignment.player = other.player)
    (row : Standing) (fixtures : List Fixture) (latest : Fixture) :
    build rules assignment row fixtures latest = build rules other row fixtures latest := by
  unfold build
  rw [team, player]

/-- What reads build is theirs alone. -/
theorem Reads.Builds.unique {rules : Rules} {assignment : Assignment} {reads : Reads}
    {p q : Projection} (hp : reads.Builds rules assignment p)
    (hq : reads.Builds rules assignment q) : p = q := by
  have same := (party_eq_all_iff.mpr hp).symm.trans (party_eq_all_iff.mpr hq)
  cases same
  rfl

namespace Config

/-- The parties in another order: to each place comes the party that `σ` tells. -/
def reordered (config : Config) (σ : Equiv.Perm Seat) : Config :=
  { config with parties :=
    ⟨config.parties.get (σ .first), config.parties.get (σ .second), config.parties.get (σ .third)⟩ }

variable {config : Config} {σ : Equiv.Perm Seat}

@[simp] theorem get_reordered (seat : Seat) :
    (config.reordered σ).parties.get seat = config.parties.get (σ seat) := by
  cases seat <;> rfl

@[simp] theorem teamOf_reordered (seat : Seat) :
    (config.reordered σ).teamOf seat = config.teamOf (σ seat) := by
  cases seat <;> rfl

theorem map_all_perm (σ : Equiv.Perm Seat) : (Seat.all.map σ).Perm Seat.all := by
  have nodup : Seat.all.Nodup := by decide
  refine (List.perm_ext_iff_of_nodup (nodup.map σ.injective) nodup).mpr fun seat => ?_
  exact iff_of_true (List.mem_map.mpr ⟨σ.symm seat, Seat.mem_all _, σ.apply_symm_apply seat⟩)
    (Seat.mem_all seat)

theorem toList_reordered_perm :
    (config.reordered σ).parties.toList.Perm config.parties.toList :=
  (map_all_perm σ).map config.parties.get

theorem check_reordered {settings : Settings} (h : settings.check = .ok config) :
    { settings with parties := (config.reordered σ).parties.toList }.check
      = .ok (config.reordered σ) := by
  obtain ⟨parties, nodup, season, stake, path, port, rules, provider⟩ :=
    Settings.check_eq_ok_iff.mp h
  rw [parties] at nodup
  refine Settings.check_eq_ok_iff.mpr ⟨rfl, ?_, season, stake, path, port, rules, provider⟩
  exact (toList_reordered_perm.map Party.team).nodup_iff.mpr nodup

section

variable {snapshot : Snapshot} {now : Instant}

/-- **A party's reads come to the same in any order of the parties.** -/
theorem reads_reordered (seat : Seat) :
    Reads.ofProvider (snapshot.provider now) ((config.reordered σ).assignments.get seat)
      = Reads.ofProvider (snapshot.provider now) (config.assignments.get (σ seat)) := by
  rw [assignments_get, assignments_get]
  simp only [teamOf_reordered, get_reordered]
  rcases Seat.rivals_perm σ seat with ⟨first, second⟩ | ⟨first, second⟩
  · rw [first, second]
  · -- the fixtures between the rivals are asked for the other way round
    rw [first, second]
    simp only [Reads.ofProvider, Snapshot.provider]
    rw [Snapshot.headToHead_comm]

theorem team_reordered (seat : Seat) : ((config.reordered σ).assignments.get seat).team
    = (config.assignments.get (σ seat)).team := by
  rw [assignments_get, assignments_get, teamOf_reordered]

theorem player_reordered (seat : Seat) : ((config.reordered σ).assignments.get seat).player
    = (config.assignments.get (σ seat)).player := by
  rw [assignments_get, assignments_get, get_reordered]

theorem builds_reordered {seat : Seat} {p : Projection} :
    (Reads.ofProvider (snapshot.provider now) ((config.reordered σ).assignments.get seat)).Builds
        config.rules ((config.reordered σ).assignments.get seat) p ↔
      (Reads.ofProvider (snapshot.provider now) (config.assignments.get (σ seat))).Builds
        config.rules (config.assignments.get (σ seat)) p := by
  unfold Reads.Builds
  rw [reads_reordered]
  simp only [Projection.build_eq_of_same (team_reordered seat) (player_reordered seat)]

theorem failure?_reordered (seat : Seat) (kind : FetchKind) :
    (Reads.ofProvider (snapshot.provider now)
        ((config.reordered σ).assignments.get seat)).failure?
        ((config.reordered σ).assignments.get seat) kind
      = (Reads.ofProvider (snapshot.provider now)
        (config.assignments.get (σ seat))).failure? (config.assignments.get (σ seat)) kind := by
  rw [reads_reordered]
  cases kind with
  | leagueEntry => simp only [Reads.failure?, team_reordered]
  | latestMatch => simp only [Reads.failure?, team_reordered]
  | headToHead => rfl -- a snapshot always has its fixtures

end

end Config

/-! ## The rows -/

namespace Settlement

variable {rules : Rules} {own a b : Projection} {r r' : SettlementRow}

/-- **The order of the rivals moves the columns of a row, and nothing else.** -/
theorem eq_swapped_of_rows (h : row rules own a b = .ok r) (h' : row rules own b a = .ok r') :
    r' = r.swapped := by
  have told := Told.of_row h
  have told' := Told.of_row h'
  have figures := Figures.of_row h
  have figures' := Figures.of_row h'
  -- the cases and the balance are sums over both rivals, so the order is no matter
  have best : r'.bestCase = r.bestCase := by
    refine Int32.toInt_inj.mp ?_
    rw [toInt_bestCase (Prospects.of_row h').bestCase, toInt_bestCase (Prospects.of_row h).bestCase]
    congr 1
    omega
  have worst : r'.worstCase = r.worstCase := by
    refine Int32.toInt_inj.mp ?_
    rw [toInt_worstCase (Prospects.of_row h').worstCase,
      toInt_worstCase (Prospects.of_row h).worstCase]
    congr 1
    omega
  have balance : r'.balanceAmount = r.balanceAmount := by
    refine Int32.toInt_inj.mp ?_
    rw [figures'.balanceAmount, figures.balanceAmount]
    congr 1
    omega
  have amountA : r'.amountA = r.amountB :=
    Int32.toInt_inj.mp (figures'.amountA.trans figures.amountB.symm)
  have amountB : r'.amountB = r.amountA :=
    Int32.toInt_inj.mp (figures'.amountB.trans figures.amountA.symm)
  exact SettlementRow.ext (told'.teamName.trans told.teamName.symm)
    (told'.playerName.trans told.playerName.symm) (told'.played.trans told.played.symm)
    (figures'.points.trans figures.points.symm) (figures'.oweA.trans figures.oweB.symm) amountA
    (figures'.oweB.trans figures.oweA.symm) amountB best worst
    (told'.balance.trans told.balance.symm) balance (told'.live.trans told.live.symm)
    (told'.homeTeam.trans told.homeTeam.symm) (told'.awayTeam.trans told.awayTeam.symm)
    (told'.homeTeamScore.trans told.homeTeamScore.symm)
    (told'.awayTeamScore.trans told.awayTeamScore.symm)

/-- The ranked rows, as a ranking of the parties. -/
theorem exists_ranking (rowOf : Seat → SettlementRow) :
    ∃ ranking : List Seat, ranking.Perm Seat.all ∧
      ranked (Seat.all.map rowOf) = ranking.map rowOf :=
  ⟨ranking rowOf, ranking_perm rowOf, ranked_map_all rowOf⟩

/-- **Two rankings of the same points differ only among level rows.** -/
theorem map_points_eq {rows rows' : List SettlementRow}
    (h : (rows.map (·.points)).Perm (rows'.map (·.points))) :
    (ranked rows).map (·.points) = (ranked rows').map (·.points) := by
  have sorted (rows : List SettlementRow) :
      ((ranked rows).map (·.points)).Pairwise fun x y => y ≤ x :=
    List.pairwise_map.mpr (ranked_sorted rows)
  -- a list in order is told by its members
  refine List.Perm.eq_of_pairwise (fun x y _ _ hyx hxy => Int32.le_antisymm hxy hyx)
    (sorted rows) (sorted rows') ?_
  exact (((ranked_perm rows).map _).trans h).trans ((ranked_perm rows').map _).symm

end Settlement

namespace Config

section

variable {config : Config} {σ : Equiv.Perm Seat} {snapshot : Snapshot} {now : Instant}
variable {rowOf rowOf' : Seat → SettlementRow}

/-- The reads of a snapshot for the parties of a configuration. -/
def readsOf (config : Config) (snapshot : Snapshot) (now : Instant) : Trio Reads :=
  config.readsFrom fun _ => snapshot.provider now

theorem get_readsOf (seat : Seat) : (config.readsOf snapshot now).get seat
    = Reads.ofProvider (snapshot.provider now) (config.assignments.get seat) :=
  get_readsFrom seat

/-- **A party's row is the same in any order of the parties, up to its columns.** -/
theorem row_reordered
    (h : Reads.Makes config.rules config.assignments (config.readsOf snapshot now) rowOf)
    (h' : Reads.Makes config.rules (config.reordered σ).assignments
      ((config.reordered σ).readsOf snapshot now) rowOf') (seat : Seat) :
    rowOf' seat = rowOf (σ seat) ∨ rowOf' seat = (rowOf (σ seat)).swapped := by
  obtain ⟨ps, builds, own⟩ := h
  obtain ⟨qs, builds', own'⟩ := h'
  simp only [get_readsOf] at builds builds'
  -- each party has one projection, wherever it stands
  have same (seat : Seat) : qs.get seat = ps.get (σ seat) :=
    (builds_reordered.mp (builds' seat)).unique (builds (σ seat))
  have made := own' seat
  rw [same, same, same] at made
  rcases Seat.rivals_perm σ seat with ⟨first, second⟩ | ⟨first, second⟩
  · rw [first, second, own (σ seat)] at made
    exact .inl (Except.ok.inj made).symm
  · rw [first, second] at made
    exact .inr (Settlement.eq_swapped_of_rows (own (σ seat)) made)

theorem points_eq_of_row {r r' : SettlementRow} (h : r' = r ∨ r' = r.swapped) :
    r'.points = r.points := by
  rcases h with rfl | rfl <;> rfl

/-- Each place of the ranking is taken by parties with equally many points. -/
theorem ranking_reordered {placed : Seat → SettlementRow} {ranking places : List Seat}
    (row : ∀ seat, placed seat = rowOf (σ seat) ∨ placed seat = (rowOf (σ seat)).swapped)
    (hr : Settlement.ranked (Seat.all.map rowOf) = ranking.map rowOf)
    (hp : Settlement.ranked (Seat.all.map placed) = places.map placed) :
    (ranking.map fun seat => (rowOf seat).points)
      = (places.map σ).map fun seat => (rowOf seat).points := by
  have points (seat : Seat) : (placed seat).points = (rowOf (σ seat)).points :=
    points_eq_of_row (row seat)
  have perm : ((Seat.all.map rowOf).map (·.points)).Perm ((Seat.all.map placed).map (·.points)) := by
    simp only [List.map_map, Function.comp_def, points]
    have moved := (map_all_perm σ).map fun seat => (rowOf seat).points
    rw [List.map_map] at moved
    exact moved.symm
  have ranks := Settlement.map_points_eq perm
  rw [hr, hp] at ranks
  simpa only [List.map_map, Function.comp_def, points] using ranks

end

/-- **The order of the parties changes nobody's money.** The parties of a configuration, in any other
order, fit together as well. Whatever snapshot is read, each read for a party fails in both orders
or in neither, with the same failure, and the same projection is built. If both orders come to rows,
then each party has the same row in both, up to its two columns, and each place of the ranking is
taken by parties with equally many points. -/
theorem rows_reordered (config : Config) (σ : Equiv.Perm Seat) (snapshot : Snapshot)
    (now : Instant) :
    ((config.reordered σ).parties.toList.Perm config.parties.toList ∧
      ∀ settings : Settings, settings.check = .ok config →
        { settings with parties := (config.reordered σ).parties.toList }.check
          = .ok (config.reordered σ)) ∧
    (∀ seat kind,
      (((config.reordered σ).readsOf snapshot now).get seat).failure?
          ((config.reordered σ).assignments.get seat) kind
        = ((config.readsOf snapshot now).get (σ seat)).failure?
          (config.assignments.get (σ seat)) kind) ∧
    (∀ seat p,
      (((config.reordered σ).readsOf snapshot now).get seat).Builds config.rules
          ((config.reordered σ).assignments.get seat) p ↔
        ((config.readsOf snapshot now).get (σ seat)).Builds config.rules
          (config.assignments.get (σ seat)) p) ∧
    ∀ rows rows',
      (snapshot.provider now).settle config.rules config.assignments = .done rows →
      (snapshot.provider now).settle (config.reordered σ).rules (config.reordered σ).assignments
        = .done rows' →
      ∃ (rowOf rowOf' : Seat → SettlementRow) (ranking ranking' : List Seat),
        Reads.Makes config.rules config.assignments (config.readsOf snapshot now) rowOf ∧
        Reads.Makes config.rules (config.reordered σ).assignments
          ((config.reordered σ).readsOf snapshot now) (fun seat => rowOf' (σ seat)) ∧
        (ranking.Perm Seat.all ∧ rows = ranking.map rowOf) ∧
        (ranking'.Perm Seat.all ∧ rows' = ranking'.map rowOf') ∧
        (∀ seat, rowOf' seat = rowOf seat ∨ rowOf' seat = (rowOf seat).swapped) ∧
        (ranking.map fun seat => (rowOf seat).points)
          = ranking'.map fun seat => (rowOf seat).points := by
  refine ⟨⟨toList_reordered_perm, fun settings => check_reordered⟩, ?_, ?_, ?_⟩
  · intro seat kind
    rw [get_readsOf, get_readsOf]
    exact failure?_reordered seat kind
  · intro seat p
    rw [get_readsOf, get_readsOf]
    exact builds_reordered
  · intro rows rows' h h'
    obtain ⟨rowOf, makes, rfl⟩ := Reads.exists_makes h
    obtain ⟨placed, makes', rfl⟩ := Reads.exists_makes h'
    have row := row_reordered makes makes'
    obtain ⟨ranking, perm, hr⟩ := Settlement.exists_ranking rowOf
    obtain ⟨places, perm', hp⟩ := Settlement.exists_ranking placed
    -- the second run has its rows by places; a party is found at the place that it was moved to
    refine ⟨rowOf, fun seat => placed (σ.symm seat), ranking, places.map σ, makes, ?_, ⟨perm, hr⟩,
      ⟨(perm'.map σ).trans (map_all_perm σ), ?_⟩, fun seat => ?_, ranking_reordered row hr hp⟩
    · simp only [Equiv.symm_apply_apply]
      exact makes'
    · simpa only [List.map_map, Function.comp_def, Equiv.symm_apply_apply] using hp
    · simpa only [Equiv.apply_symm_apply] using row (σ.symm seat)

theorem rows_reordered_midSeason :
    ∃ (σ : Equiv.Perm Seat) (rows rows' : List SettlementRow), σ .first = .second ∧
      (Snapshot.midSeason.provider (.midnight 4)).settle plain.rules plain.assignments = .done rows ∧
      (Snapshot.midSeason.provider (.midnight 4)).settle (plain.reordered σ).rules
        (plain.reordered σ).assignments = .done rows' ∧
      ∃ (rowOf rowOf' : Seat → SettlementRow) (ranking ranking' : List Seat),
        rows = ranking.map rowOf ∧ rows' = ranking'.map rowOf' ∧
          (ranking.map fun seat => (rowOf seat).points)
            = ranking'.map fun seat => (rowOf seat).points := by
  obtain ⟨rows, h⟩ : ∃ rows,
      (Snapshot.midSeason.provider (.midnight 4)).settle plain.rules plain.assignments = .done rows :=
    Run.exists_of_isDone (by decide +kernel)
  obtain ⟨rows', h'⟩ : ∃ rows', (Snapshot.midSeason.provider (.midnight 4)).settle plain.rules
      (plain.reordered (Equiv.swap .first .second)).assignments = .done rows' :=
    Run.exists_of_isDone (by decide +kernel)
  obtain ⟨rowOf, rowOf', ranking, ranking', _, _, hr, hr', _, points⟩ :=
    (rows_reordered plain (Equiv.swap .first .second) .midSeason (.midnight 4)).2.2.2 rows rows' h h'
  exact ⟨_, rows, rows', rfl, h, h', rowOf, rowOf', ranking, ranking', hr.2, hr'.2, points⟩

end Config

end LeagueWager
