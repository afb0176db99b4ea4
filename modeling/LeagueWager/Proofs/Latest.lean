import LeagueWager.Proofs.Rows
import Mathlib.Data.List.Induction

/-!
# The latest fixture of a team

The latest fixture of a team is found by going once through all fixtures and keeping, of two that
count, the later one. Which one is found does not depend on the way: it is the last in the list of
those that kick off latest among the team's fixtures that have kicked off. So fixtures that do not
count may stand anywhere, and as time goes on the latest fixture only gets later.

* `latest?_snoc`: one fixture more at the end of the list;
* `latestMatch_eq_ok_iff`, `latestMatch_eq_error_iff`: which fixture is found, and when none is;
* `latestMatch_of_interspersed`: fixtures that do not count;
* `latestMatch_mono`: two moments;
* `latest_of_fixtures`: all of it together.
-/

namespace LeagueWager.Snapshot

variable {fixtures others : List Fixture} {team : String} {now : Instant} {f g : Fixture}
variable {i j : Nat}

/-! ## By its place in the list -/

/-- The fixture at place `i` is the last of those that kick off latest, among the team's fixtures
that have kicked off by `now`. -/
structure LatestAt (fixtures : List Fixture) (team : String) (now : Instant) (i : Nat)
    (f : Fixture) : Prop where
  place : fixtures[i]? = some f
  involved : f.involves team = true
  started : f.kickOff ≤ now
  /-- No fixture that counts kicks off later, and none as late stands behind it. -/
  latest : ∀ j g, fixtures[j]? = some g → g.involves team = true → g.kickOff ≤ now →
    g.kickOff ≤ f.kickOff ∧ (g.kickOff = f.kickOff → j ≤ i)

/-- There is one such place at most. -/
theorem LatestAt.unique (hf : LatestAt fixtures team now i f)
    (hg : LatestAt fixtures team now j g) : f = g := by
  obtain ⟨upper, after⟩ := hf.latest j g hg.place hg.involved hg.started
  obtain ⟨lower, before⟩ := hg.latest i f hf.place hf.involved hf.started
  have same : g.kickOff = f.kickOff := Instant.le_antisymm upper lower
  have place : i = j := Nat.le_antisymm (before same.symm) (after same)
  have hg := hg.place
  rw [← place, hf.place] at hg
  exact Option.some.inj hg

/-! ## One fixture more -/

theorem latest?_snoc : latest? (fixtures ++ [f]) team now =
    if hasStarted team now f = true then later (latest? fixtures team now) f
    else latest? fixtures team now := by
  unfold latest?
  rw [List.filter_append, List.foldl_append]
  split
  · rename_i counts
    rw [List.filter_cons_of_pos counts]
    rfl
  · rename_i idle
    rw [List.filter_cons_of_neg idle]
    rfl

theorem getElem?_snoc {j : Nat} (h : (fixtures ++ [f])[j]? = some g) :
    fixtures[j]? = some g ∨ j = fixtures.length ∧ f = g := by
  rcases Nat.lt_trichotomy j fixtures.length with inside | rfl | outside
  · rw [List.getElem?_append_left inside] at h
    exact .inl h
  · rw [List.getElem?_concat_length] at h
    exact .inr ⟨rfl, Option.some.inj h⟩
  · rw [List.getElem?_eq_none (by rw [List.length_append, List.length_singleton]; omega)] at h
    cases h

/-- A fixture at the end that does not count, or kicks off before the latest, changes nothing. -/
theorem LatestAt.snoc (h : LatestAt fixtures team now i f)
    (early : hasStarted team now g = true → ¬ f.kickOff ≤ g.kickOff) :
    LatestAt (fixtures ++ [g]) team now i f := by
  have inside : i < fixtures.length := (List.getElem?_eq_some_iff.mp h.place).1
  refine ⟨?_, h.involved, h.started, ?_⟩
  · rw [List.getElem?_append_left inside]
    exact h.place
  · intro j g' place involved started
    rcases getElem?_snoc place with before | ⟨_, rfl⟩
    · exact h.latest j g' before involved started
    · have notAsLate := early (hasStarted_iff.mpr ⟨involved, started⟩)
      rcases Instant.le_total g.kickOff f.kickOff with earlier | asLate
      · refine ⟨earlier, ?_⟩
        intro same
        exact absurd (same ▸ Instant.le_refl g.kickOff) notAsLate
      · exact absurd asLate notAsLate

/-- A fixture at the end that counts, and kicks off as late as all others that do, is the latest. -/
theorem latestAt_length (counts : hasStarted team now f = true)
    (late : ∀ (j : Nat) (g : Fixture), fixtures[j]? = some g → g.involves team = true →
      g.kickOff ≤ now → g.kickOff ≤ f.kickOff) :
    LatestAt (fixtures ++ [f]) team now fixtures.length f := by
  obtain ⟨involved, started⟩ := hasStarted_iff.mp counts
  refine ⟨List.getElem?_concat_length, involved, started, ?_⟩
  intro j g place involved started
  rcases getElem?_snoc place with before | ⟨rfl, rfl⟩
  · have inside : j < fixtures.length := (List.getElem?_eq_some_iff.mp before).1
    exact ⟨late j g before involved started, fun _ => Nat.le_of_lt inside⟩
  · exact ⟨Instant.le_refl _, fun _ => Nat.le_refl _⟩

/-- **The fixture that is found is the last of the latest.** -/
theorem latestAt_of_latest? (h : latest? fixtures team now = some f) :
    ∃ i, LatestAt fixtures team now i f := by
  -- the list is read from its end, where the scan of it ends
  induction fixtures using List.reverseRecOn generalizing f with
  | nil => cases h
  | append_singleton fixtures last ih =>
    rw [latest?_snoc] at h
    split at h
    · rename_i counts
      cases best : latest? fixtures team now with
      | none =>
        rw [best] at h
        obtain rfl : last = f := Option.some.inj h
        refine ⟨_, latestAt_length counts ?_⟩
        intro j g place involved started
        exact absurd ⟨involved, started⟩
          (latest?_eq_none_iff.mp best g (List.mem_of_getElem? place))
      | some b =>
        obtain ⟨i, hb⟩ := ih best
        rw [best] at h
        unfold later at h
        dsimp only at h
        split at h
        · rename_i asLate
          obtain rfl : last = f := Option.some.inj h
          refine ⟨_, latestAt_length counts ?_⟩
          intro j g place involved started
          exact Instant.le_trans (hb.latest j g place involved started).1 asLate
        · rename_i notAsLate
          obtain rfl : b = f := Option.some.inj h
          exact ⟨i, hb.snoc fun _ => notAsLate⟩
    · rename_i idle
      obtain ⟨i, hf⟩ := ih h
      exact ⟨i, hf.snoc fun counts => absurd counts idle⟩

/-! ## What is found -/

theorem latestMatch_eq_ok_iff :
    latestMatch fixtures team now = .ok f ↔ ∃ i, LatestAt fixtures team now i f := by
  rw [latestMatch_eq_ok_iff_latest?]
  constructor
  · exact latestAt_of_latest?
  · rintro ⟨i, hf⟩
    cases best : latest? fixtures team now with
    | none =>
      exact absurd ⟨hf.involved, hf.started⟩
        (latest?_eq_none_iff.mp best f (List.mem_of_getElem? hf.place))
    | some g =>
      obtain ⟨j, hg⟩ := latestAt_of_latest? best
      rw [hf.unique hg]

/-! ## Fixtures that do not count -/

/-- The second list is the first with fixtures put in, anywhere, each of which is later than `now`
or none of the team's. -/
inductive Interspersed (team : String) (now : Instant) : List Fixture → List Fixture → Prop where
  | nil : Interspersed team now [] []
  | keep {fixtures others : List Fixture} (f : Fixture)
      (rest : Interspersed team now fixtures others) :
    Interspersed team now (f :: fixtures) (f :: others)
  | put {fixtures others : List Fixture} (f : Fixture)
      (idle : ¬ f.kickOff ≤ now ∨ f.involves team = false)
      (rest : Interspersed team now fixtures others) :
    Interspersed team now fixtures (f :: others)

theorem Interspersed.filter_eq (h : Interspersed team now fixtures others) :
    others.filter (hasStarted team now) = fixtures.filter (hasStarted team now) := by
  induction h with
  | nil => rfl
  | keep f _ ih => rw [List.filter_cons, List.filter_cons, ih]
  | put f idle _ ih =>
    have skipped : ¬ hasStarted team now f = true := by
      rw [hasStarted_iff]
      rintro ⟨involved, started⟩
      rcases idle with late | foreign
      · exact late started
      · rw [involved] at foreign
        cases foreign
    rw [List.filter_cons_of_neg skipped, ih]

/-- **Fixtures that do not count change nothing**, wherever they stand. -/
theorem latestMatch_of_interspersed (h : Interspersed team now fixtures others) :
    latestMatch others team now = latestMatch fixtures team now := by
  unfold latestMatch latest?
  rw [h.filter_eq]

/-! ## Two moments -/

/-- **As time goes on, the latest fixture only gets later.** -/
theorem latestMatch_mono {after : Instant} (le : now ≤ after)
    (h : latestMatch fixtures team now = .ok f) :
    ∃ g, latestMatch fixtures team after = .ok g ∧ f.kickOff ≤ g.kickOff := by
  obtain ⟨i, hf⟩ := latestMatch_eq_ok_iff.mp h
  have started : f.kickOff ≤ after := Instant.le_trans hf.started le
  cases hg : latestMatch fixtures team after with
  | error e =>
    have none := (latestMatch_eq_error_iff.mp hg).2 f (List.mem_of_getElem? hf.place)
    exact absurd ⟨hf.involved, started⟩ none
  | ok g =>
    obtain ⟨j, hg⟩ := latestMatch_eq_ok_iff.mp hg
    exact ⟨g, rfl, (hg.latest i f hf.place hf.involved started).1⟩

/-- **The latest fixture of a team**, whatever the fixtures, the team and the moment. There is none,
and this is what is reported, exactly if no fixture of the team has kicked off by then; else it is
the one at the last place among those that kick off latest. Fixtures that are later than the moment
or none of the team's may be put in or left out anywhere. Looked at from a later moment there is a
latest fixture too, and it kicks off no earlier. -/
theorem latest_of_fixtures (fixtures : List Fixture) (team : String) (now : Instant) :
    (∀ e, latestMatch fixtures team now = .error e ↔ e = .notFound .latestMatch team ∧
      ∀ f ∈ fixtures, ¬ (f.involves team = true ∧ f.kickOff ≤ now)) ∧
    (∀ f, latestMatch fixtures team now = .ok f ↔ ∃ i, LatestAt fixtures team now i f) ∧
    (∀ others, Interspersed team now fixtures others →
      latestMatch others team now = latestMatch fixtures team now) ∧
    ∀ after f, now ≤ after → latestMatch fixtures team now = .ok f →
      ∃ g, latestMatch fixtures team after = .ok g ∧ f.kickOff ≤ g.kickOff := by
  refine ⟨fun e => latestMatch_eq_error_iff, fun f => latestMatch_eq_ok_iff, ?_, ?_⟩
  · intro others h
    exact latestMatch_of_interspersed h
  · intro after f le h
    exact latestMatch_mono le h

/-- Two fixtures that kick off in the same leap second, the team under another name in each. -/
def twoAtOnce : List Fixture :=
  [{ Fixture.onDay 0 "Wolverhampton" "Everton" .finished with kickOff := ⟨86399, 1500000000⟩ },
    { Fixture.onDay 0 "Arsenal" "Wolves" .paused with kickOff := ⟨86399, 1500000000⟩ },
    .onDay 9 "Wolves" "Fulham" .timed]

/-- The second of them is the latest, also with a fixture of others in front, and there is one when
the next has kicked off. -/
theorem latest_of_twoAtOnce :
    Interspersed "Wolves" (.midnight 1) twoAtOnce
        (.onDay 1 "Everton" "Arsenal" .finished :: twoAtOnce) ∧
      Instant.midnight 1 ≤ .midnight 9 ∧
      latestMatch (.onDay 1 "Everton" "Arsenal" .finished :: twoAtOnce) "Wolves" (.midnight 1)
        = .ok twoAtOnce[1] ∧
      (∃ i, LatestAt twoAtOnce "Wolves" (.midnight 1) i twoAtOnce[1]) ∧
      ∃ g, latestMatch twoAtOnce "Wolves" (.midnight 9) = .ok g ∧
        twoAtOnce[1].kickOff ≤ g.kickOff := by
  have put : Interspersed "Wolves" (.midnight 1) twoAtOnce
      (.onDay 1 "Everton" "Arsenal" .finished :: twoAtOnce) :=
    .put _ (.inr (by decide)) (.keep _ (.keep _ (.keep _ .nil)))
  have le : Instant.midnight 1 ≤ .midnight 9 := by decide
  have second : latestMatch twoAtOnce "Wolves" (.midnight 1) = .ok twoAtOnce[1] := by rfl
  obtain ⟨_, found, same, mono⟩ := latest_of_fixtures twoAtOnce "Wolves" (.midnight 1)
  exact ⟨put, le, (same _ put).trans second, (found _).mp second, mono _ _ le second⟩

end LeagueWager.Snapshot
