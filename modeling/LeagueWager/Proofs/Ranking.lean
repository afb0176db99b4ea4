import LeagueWager.Proofs.Figures
import LeagueWager.Proofs.Rows

/-!
# The ranking

The rows of a settlement stand by points, more first, and the rows of level parties in the order of
the parties. Points and order together leave one ranking, so the rows that are returned are told in
full by what each party's row is. Parties may share a name or a team: what is ranked is whose row it
is, not what the row looks like.

* `Settlement.leads_ranking`: no party stands behind one that it leads;
* `Settlement.IsRanking.unique`: there is one ranking only;
* `Settlement.ranking_of_rows`: what is returned, and what any order of the tasks comes to.
-/

namespace LeagueWager

/-- A party's place in the order of the parties. -/
def Seat.place : Seat → Nat
  | first => 0
  | second => 1
  | third => 2

theorem Seat.pair_sublist_all : ∀ s t : Seat, s.place < t.place → [s, t].Sublist all := by
  decide

theorem Seat.eq_of_place_eq : ∀ s t : Seat, s.place = t.place → s = t := by decide

/-- Of two things in a list without repetitions only one comes first. -/
theorem not_pair_sublist_of_nodup {α : Type} {l : List α} {a b : α} (nodup : l.Nodup)
    (h : [a, b].Sublist l) : ¬ [b, a].Sublist l := by
  intro h'
  induction l with
  | nil => cases h
  | cons x rest ih =>
    obtain ⟨fresh, nodup⟩ := List.nodup_cons.mp nodup
    cases h with
    | cons _ h =>
      cases h' with
      | cons _ h' => exact ih nodup h h'
      | cons_cons _ _ => exact fresh (h.subset (List.mem_cons_of_mem a List.mem_cons_self))
    | cons_cons _ h =>
      -- `a` is the head, and would have to come again behind `b`
      cases h' with
      | cons _ h' => exact fresh (h'.subset (List.mem_cons_of_mem b List.mem_cons_self))
      | cons_cons _ _ => exact fresh (h.subset List.mem_cons_self)

namespace Settlement

/-! ## One ranking only -/

/-- The party `s` stands in front of `t`: it has more points, or as many and an earlier place. -/
def Leads (points : Seat → Int32) (s t : Seat) : Prop :=
  points t < points s ∨ points s = points t ∧ s.place < t.place

/-- Every party once, those with more points first, and level parties in their order. -/
structure IsRanking (points : Seat → Int32) (ranking : List Seat) : Prop where
  perm : ranking.Perm Seat.all
  leads : ranking.Pairwise (Leads points)

theorem Leads.asymm {points : Seat → Int32} {s t : Seat} (h : Leads points s t) :
    ¬ Leads points t s := by
  simp only [Leads, Int32.lt_iff_toInt_lt, ← Int32.toInt_inj] at h ⊢
  omega

/-- **There is one ranking only.** -/
theorem IsRanking.unique {points : Seat → Int32} {ranking ranking' : List Seat}
    (h : IsRanking points ranking) (h' : IsRanking points ranking') : ranking = ranking' :=
  List.Perm.eq_of_pairwise (fun _ _ _ _ lead back => absurd back lead.asymm) h.leads h'.leads
    (h.perm.trans h'.perm.symm)

/-! ## The ranking that rows are sorted by -/

/-- The parties, sorted as their rows are. -/
def ranking (rowOf : Seat → SettlementRow) : List Seat :=
  Seat.all.mergeSort fun s t => ranksBefore (rowOf s) (rowOf t)

theorem ranked_map_all (rowOf : Seat → SettlementRow) :
    ranked (Seat.all.map rowOf) = (ranking rowOf).map rowOf := by
  have sorts : (ranking rowOf).map rowOf = (Seat.all.map rowOf).mergeSort ranksBefore :=
    List.map_mergeSort fun _ _ _ _ => rfl
  exact sorts.symm

theorem ranking_perm (rowOf : Seat → SettlementRow) : (ranking rowOf).Perm Seat.all :=
  List.mergeSort_perm _ _

/-- **No party stands behind one that it leads.** -/
theorem leads_ranking (rowOf : Seat → SettlementRow) :
    (ranking rowOf).Pairwise (Leads fun s => (rowOf s).points) := by
  have trans (s t u : Seat) := ranksBefore_trans (rowOf s) (rowOf t) (rowOf u)
  have total (s t : Seat) := ranksBefore_total (rowOf s) (rowOf t)
  have nodup : (ranking rowOf).Nodup := (ranking_perm rowOf).nodup_iff.mpr (by decide)
  have sorted : (ranking rowOf).Pairwise fun s t => (rowOf t).points ≤ (rowOf s).points :=
    (List.pairwise_mergeSort trans total Seat.all).imp of_decide_eq_true
  rw [List.pairwise_iff_forall_sublist] at sorted ⊢
  intro s t before
  have most := sorted before
  by_cases level : (rowOf s).points = (rowOf t).points
  · refine .inr ⟨level, Nat.lt_of_not_le fun behind => ?_⟩
    rcases Nat.lt_or_eq_of_le behind with behind | same
    · -- the sort keeps level parties in their order, and `t` is the earlier of the two
      have may : ranksBefore (rowOf t) (rowOf s) = true := decide_eq_true (Int32.le_of_eq level)
      have kept : [t, s].Sublist (ranking rowOf) :=
        List.pair_sublist_mergeSort trans total may (Seat.pair_sublist_all t s behind)
      exact not_pair_sublist_of_nodup nodup before kept
    · obtain rfl := Seat.eq_of_place_eq t s same
      exact not_pair_sublist_of_nodup nodup before before
  · exact .inl (Int32.lt_of_le_of_ne most (Ne.symm level))

theorem isRanking_ranking (rowOf : Seat → SettlementRow) :
    IsRanking (fun s => (rowOf s).points) (ranking rowOf) :=
  ⟨ranking_perm rowOf, leads_ranking rowOf⟩

theorem ranked_eq_of_isRanking {rowOf : Seat → SettlementRow} {order : List Seat}
    (h : IsRanking (fun s => (rowOf s).points) order) :
    ranked (Seat.all.map rowOf) = order.map rowOf := by
  rw [ranked_map_all, (isRanking_ranking rowOf).unique h]

/-! ## What is returned -/

section

variable {rules : Rules} {parties : Trio Projection} {assignments : Trio Assignment}
variable {reads : Trio Reads} {rows : List SettlementRow}

/-- A settlement returns the parties' rows in their ranking, and only those. -/
theorem all_eq_ok_iff : all rules parties = .ok rows ↔
    ∃ rowOf order, RowsOf rules parties rowOf ∧
      IsRanking (fun s => (rowOf s).points) order ∧ rows = order.map rowOf := by
  constructor
  · intro h
    obtain ⟨rowOf, own, rfl⟩ := exists_rowsOf h
    exact ⟨rowOf, ranking rowOf, own, isRanking_ranking rowOf, ranked_map_all rowOf⟩
  · rintro ⟨rowOf, order, own, isRanking, rfl⟩
    rw [all_of_rowsOf own, ranked_eq_of_isRanking isRanking]

/-- A party's row has the points that its team has in the table. -/
theorem points_of_makes {rowOf : Seat → SettlementRow}
    (h : Reads.Makes rules assignments reads rowOf) {seat : Seat} {standing : Standing}
    (read : (reads.get seat).leagueEntry = .value standing) :
    (rowOf seat).points = standing.points := by
  obtain ⟨ps, builds, own⟩ := h
  obtain ⟨standing', _, _, ⟨read', _, _⟩, built⟩ := builds seat
  obtain rfl : standing = standing' := Read.value.inj (read.symm.trans read')
  have exact := Projection.exact_of_build built
  rw [(Figures.of_row (own seat)).points, exact.currentPoints]

end

/-- **Rows by points, and level ones in the order of the parties.** A settlement of three
projections returns the rows of the three, each against the other two in their order, ranked: those
with more points first, and of level ones the earlier first. Whatever the reads come to, and in
whatever order the tasks go on, a settlement that comes to rows comes to those of its own
assignments in this ranking, each with the points that its team has in the table. -/
theorem ranking_of_rows (rules : Rules) :
    (∀ parties rows, all rules parties = .ok rows ↔
      ∃ rowOf order, RowsOf rules parties rowOf ∧
        IsRanking (fun s => (rowOf s).points) order ∧ rows = order.map rowOf) ∧
    ∀ assignments reads returns c x rows,
      Course.Reachable rules assignments reads returns c → c.ended = some x →
      Course.rows rules x = .done rows →
      ∃ rowOf order, Reads.Makes rules assignments reads rowOf ∧
        IsRanking (fun s => (rowOf s).points) order ∧ rows = order.map rowOf ∧
        ∀ seat standing, (reads.get seat).leagueEntry = .value standing →
          (rowOf seat).points = standing.points := by
  refine ⟨fun parties rows => all_eq_ok_iff, ?_⟩
  intro assignments reads returns c x rows reached ended done
  obtain ⟨rowOf, makes, rfl⟩ := Reads.exists_makes (reached.settle_eq ended done)
  exact ⟨rowOf, ranking rowOf, makes, isRanking_ranking rowOf, ranked_map_all rowOf,
    fun seat standing => points_of_makes makes⟩

/-! ## Level behind the leader -/

/-- What is read for a party of whose team only the points matter. -/
def readsOfPoints (team : String) (points : Int32) : Reads :=
  ⟨.value (.ofGames team 20 points), .value [], .value (.onDay 1 team "Everton" .finished)⟩

/-- The second of three leads, and the other two are level. -/
def levelBehindSecond : Trio Reads :=
  ⟨readsOfPoints "Liverpool" 33, readsOfPoints "Chelsea" 61, readsOfPoints "Tottenham" 33⟩

theorem isRanking_levelBehindSecond {points : Seat → Int32} (first : points .first = 33)
    (second : points .second = 61) (third : points .third = 33) :
    IsRanking points [.second, .first, .third] := by
  refine ⟨by decide, ?_⟩
  simp only [List.pairwise_cons, List.mem_cons, Leads]
  simp [first, second, third, Seat.place]

/-- Some order of the tasks comes to rows, and then the second party's row stands first, and the
third's last. -/
theorem ranking_of_levelBehindSecond :
    ∃ c x rows, Course.Reachable .standard Config.plain.assignments levelBehindSecond
        Course.allReturn c ∧ c.ended = some x ∧ Course.rows .standard x = .done rows ∧
      ∃ rowOf, Reads.Makes .standard Config.plain.assignments levelBehindSecond rowOf ∧
        rows = [rowOf .second, rowOf .first, rowOf .third] := by
  obtain ⟨rows, h⟩ : ∃ rows,
      Reads.settle .standard Config.plain.assignments levelBehindSecond = .done rows :=
    Run.exists_of_isDone (by decide +kernel)
  have allows : (Reads.settle .standard Config.plain.assignments levelBehindSecond).Allows
      (.done rows) := by
    rw [h]
    rfl
  obtain ⟨x, ⟨c, reached, ended⟩, done⟩ :=
    (Course.endsWith_iff_settle fun _ => trivial).mpr allows
  obtain ⟨rowOf, order, makes, isRanking, rfl, points⟩ :=
    (ranking_of_rows .standard).2 _ _ _ c x rows reached ended done
  have isOrder : IsRanking (fun s => (rowOf s).points) [.second, .first, .third] :=
    isRanking_levelBehindSecond (points .first _ rfl) (points .second _ rfl) (points .third _ rfl)
  rw [isRanking.unique isOrder] at done
  exact ⟨c, x, _, reached, ended, done, rowOf, makes, rfl⟩

end Settlement

end LeagueWager
