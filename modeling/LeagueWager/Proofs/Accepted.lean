import LeagueWager.Proofs.Rows
import LeagueWager.Source
import Mathlib.Data.Sym.Sym2

/-!
# What is accepted, and what it is good for

A configuration is accepted once, when its text is read, and nothing asks again later whether there
are three parties, whether their teams are different, or whether a snapshot has a path. The
assignments take the parties by their places in a list, each party counts on two rivals that are
not itself, and the source of the data counts on the path.

* `Settings.Fits`: when settings fit together;
* `Settings.check_eq_ok_iff_fits`: the check accepts these settings, and no others;
* `Config.mem_rivalPairs_iff`, `Config.nodup_rivalPairs`: any two teams are the rivals of one party
  and of no other;
* `Config.dependable_of_accepted`: nothing that the rest of the program counts on is missing;
* `Config.acceptance_of_text`: which texts are accepted, and what then holds.
-/

namespace LeagueWager

/-! ## What is checked -/

namespace Settings

/-- The settings fit together. -/
structure Fits (s : Settings) : Prop where
  three : s.parties.length = 3
  /-- No two parties name the same team. -/
  apart : s.parties.Pairwise fun p q => p.team ≠ q.team
  season : 0 < s.rules.seasonLength
  stake : 0 < s.rules.stakePerPoint
  /-- If the data come from a file, there is a path to it. -/
  path : s.provider.kind = .file → s.provider.snapshotPath ≠ none

variable {s : Settings} {config : Config}

theorem check_eq_ok_iff_fits : s.check = .ok config ↔ s.Fits ∧ s = config.settings := by
  rw [check_eq_ok_iff]
  constructor
  · obtain ⟨port, rules, provider, parties⟩ := s
    rintro ⟨rfl, nodup, season, stake, path, rfl, rfl, rfl⟩
    exact ⟨⟨rfl, List.pairwise_map.mp nodup, season, stake, path⟩, rfl⟩
  · rintro ⟨fits, rfl⟩
    exact ⟨rfl, List.pairwise_map.mpr fits.apart, fits.season, fits.stake, fits.path, rfl, rfl, rfl⟩

/-- Settings with three parties are those of a configuration. -/
theorem exists_settings_eq (three : s.parties.length = 3) :
    ∃ config : Config, s = config.settings := by
  obtain ⟨port, rules, provider, parties⟩ := s
  obtain ⟨first, second, third, rfl⟩ := List.length_eq_three.mp three
  exact ⟨⟨port, rules, provider, ⟨first, second, third⟩⟩, rfl⟩

theorem exists_check_iff : (∃ config, s.check = .ok config) ↔ s.Fits := by
  constructor
  · rintro ⟨config, h⟩
    exact (check_eq_ok_iff_fits.mp h).1
  · intro fits
    obtain ⟨config, rfl⟩ := exists_settings_eq fits.three
    exact ⟨config, check_eq_ok_iff_fits.mpr ⟨fits, rfl⟩⟩

end Settings

/-! ## Rivals as pairs -/

namespace Seat

/-- The rivals of each party, whichever comes first. -/
def rivalPairs : List (Sym2 Seat) := all.map fun seat => s(seat.rivals.1, seat.rivals.2)

theorem nodup_rivalPairs : rivalPairs.Nodup := by decide

theorem mem_rivalPairs_iff : ∀ i j : Seat, s(i, j) ∈ rivalPairs ↔ i ≠ j := by decide

/-- Rivals are in the order of the parties. -/
theorem rivals_sublist : ∀ seat : Seat, [seat.rivals.1, seat.rivals.2].Sublist all := by decide

end Seat

/-- The rival teams, whichever comes first. -/
def Assignment.rivalPair (assignment : Assignment) : Sym2 String :=
  s(assignment.opponents.1, assignment.opponents.2)

/-- The teams of the parties, in order. -/
def Settings.teams (s : Settings) : List String := s.parties.map Party.team

/-- What the rest of the program counts on in settings, and in the assignments made from them. -/
structure Settings.Dependable (s : Settings) (assignments : Trio Assignment) : Prop where
  /-- Every place that an assignment is made from is in the list. -/
  placed : s.assignments? = some assignments
  /-- No party is its own rival. -/
  notOwn : ∀ assignment ∈ assignments.toList,
    assignment.team ≠ assignment.opponents.1 ∧ assignment.team ≠ assignment.opponents.2
  /-- Rivals are named in the order of the parties. -/
  ordered : ∀ assignment ∈ assignments.toList,
    [assignment.opponents.1, assignment.opponents.2].Sublist s.teams
  /-- No two parties have the same rivals. -/
  different : (assignments.toList.map Assignment.rivalPair).Nodup
  /-- The pairs of rivals are those of two different teams. -/
  complete : ∀ a b, s(a, b) ∈ assignments.toList.map Assignment.rivalPair ↔
    a ∈ s.teams ∧ b ∈ s.teams ∧ a ≠ b
  /-- Whatever files and variables there are, the data are not missing for want of a path. -/
  path : ∀ folder environment,
    Source.ofSettings folder environment s.provider ≠ .error .noSnapshotPath

namespace Config

variable {text : String} {config : Config}

theorem teams_settings : config.settings.teams = Seat.all.map config.teamOf := rfl

theorem map_rivalPair_assignments : config.assignments.toList.map Assignment.rivalPair
    = Seat.rivalPairs.map (Sym2.map config.teamOf) := rfl

theorem mem_assignments_iff {assignment : Assignment} :
    assignment ∈ config.assignments.toList ↔ ∃ seat, assignment = config.assignments.get seat := by
  have hlist : config.assignments.toList = Seat.all.map config.assignments.get := rfl
  rw [hlist, List.mem_map]
  constructor
  · rintro ⟨seat, _, rfl⟩
    exact ⟨seat, rfl⟩
  · rintro ⟨seat, rfl⟩
    exact ⟨seat, Seat.mem_all seat, rfl⟩

theorem mem_teams_iff {team : String} :
    team ∈ config.settings.teams ↔ ∃ seat, config.teamOf seat = team := by
  rw [teams_settings, List.mem_map]
  exact exists_congr fun seat => and_iff_right (Seat.mem_all seat)

/-- **No two parties have the same rivals.** -/
theorem nodup_rivalPairs (accepted : ofText text = .ok config) :
    (config.assignments.toList.map Assignment.rivalPair).Nodup := by
  have injective : Function.Injective config.teamOf := fun _ _ => teamOf_injective accepted
  rw [map_rivalPair_assignments]
  exact Seat.nodup_rivalPairs.map (Sym2.map.injective injective)

/-- **Two teams are the rivals of some party exactly if they are different.** -/
theorem mem_rivalPairs_iff (accepted : ofText text = .ok config) {a b : String} :
    s(a, b) ∈ config.assignments.toList.map Assignment.rivalPair ↔
      a ∈ config.settings.teams ∧ b ∈ config.settings.teams ∧ a ≠ b := by
  rw [map_rivalPair_assignments, List.mem_map, mem_teams_iff, mem_teams_iff]
  constructor
  · rintro ⟨⟨i, j⟩, hpair, h⟩
    have ne : config.teamOf i ≠ config.teamOf j := fun same =>
      (Seat.mem_rivalPairs_iff i j).mp hpair (teamOf_injective accepted same)
    -- the pair does not tell which of its teams is `a`
    obtain ⟨rfl, rfl⟩ | ⟨rfl, rfl⟩ := Sym2.eq_iff.mp h
    · exact ⟨⟨i, rfl⟩, ⟨j, rfl⟩, ne⟩
    · exact ⟨⟨j, rfl⟩, ⟨i, rfl⟩, ne.symm⟩
  · rintro ⟨⟨i, rfl⟩, ⟨j, rfl⟩, ne⟩
    have hij : i ≠ j := fun same => ne (congrArg config.teamOf same)
    exact ⟨s(i, j), (Seat.mem_rivalPairs_iff i j).mpr hij, rfl⟩

/-! ## What is accepted -/

theorem ofText_eq_ok_iff_fits : ofText text = .ok config ↔
    Toml.decode Settings.Written.settings text = .ok config.settings ∧ config.settings.Fits := by
  rw [ofText_eq_ok_iff]
  constructor
  · rintro ⟨settings, hd, hc⟩
    obtain ⟨fits, rfl⟩ := Settings.check_eq_ok_iff_fits.mp hc
    exact ⟨hd, fits⟩
  · rintro ⟨hd, fits⟩
    exact ⟨config.settings, hd, Settings.check_eq_ok_iff_fits.mpr ⟨fits, rfl⟩⟩

/-- **What is accepted can be counted on.** -/
theorem dependable_of_accepted (accepted : ofText text = .ok config) :
    config.settings.Dependable config.assignments where
  placed := config.assignments?_settings
  notOwn assignment h := by
    obtain ⟨seat, rfl⟩ := mem_assignments_iff.mp h
    obtain ⟨first, second, _⟩ := seat.rivals_ne
    rw [assignments_get]
    exact ⟨fun same => first (teamOf_injective accepted same),
      fun same => second (teamOf_injective accepted same)⟩
  ordered assignment h := by
    obtain ⟨seat, rfl⟩ := mem_assignments_iff.mp h
    rw [assignments_get, teams_settings]
    exact seat.rivals_sublist.map config.teamOf
  different := nodup_rivalPairs accepted
  complete a b := mem_rivalPairs_iff accepted
  path folder environment missing := by
    obtain ⟨file, none⟩ := Source.ofSettings_eq_noSnapshotPath_iff.mp missing
    exact (ofText_eq_ok_iff_fits.mp accepted).2.path file none

/-- **Which texts are accepted, and what then holds.** A text is accepted exactly if it decodes to
settings with three parties of different teams, a season and a stake above zero, and a path if the
data come from a file. The configuration is then made of what was decoded; its assignments are those
of the parties in their places; each party has the two other teams for its rivals, in order, so that
the three pairs of rivals are the three pairs of teams; and the source of the data never lacks its
path. -/
theorem acceptance_of_text (text : String) :
    ((∃ config, ofText text = .ok config) ↔
      ∃ settings, Toml.decode Settings.Written.settings text = .ok settings ∧ settings.Fits) ∧
    ∀ config, ofText text = .ok config →
      Toml.decode Settings.Written.settings text = .ok config.settings ∧
        config.settings.Dependable config.assignments := by
  refine ⟨⟨?_, ?_⟩, fun config accepted => ?_⟩
  · rintro ⟨config, accepted⟩
    exact ⟨config.settings, ofText_eq_ok_iff_fits.mp accepted⟩
  · rintro ⟨settings, hd, fits⟩
    obtain ⟨config, hc⟩ := Settings.exists_check_iff.mpr fits
    exact ⟨config, ofText_eq_ok_iff.mpr ⟨settings, hd, hc⟩⟩
  · exact ⟨(ofText_eq_ok_iff_fits.mp accepted).1, dependable_of_accepted accepted⟩

/-- A text that is only just accepted: the least rules, an empty path, and teams that differ in a
letter's case or have no name at all. -/
def narrowText : String :=
  "server.port = 8080\n" ++ "league = \x7b season_length = 1, stake_per_point = 1 \x7d\n" ++
  "provider = \x7b kind = \"file\", snapshot_path = \"\" \x7d\n" ++
  "[[wager]]\nteam = \"Leeds\"\nplayer = \"Steve\"\n" ++
  "[[wager]]\nteam = \"leeds\"\nplayer = \"Tim\"\n" ++
  "[[wager]]\nteam = \"\"\nplayer = \"Thommo\"\n"

/-- The configuration that it gives. -/
def narrow : Config where
  port := 8080
  rules := ⟨1, 1⟩
  provider := ⟨.file, "https://api.football-data.org/v4", "PL", none, 3, 15, some ""⟩
  parties := ⟨⟨"Leeds", "Steve"⟩, ⟨"leeds", "Tim"⟩, ⟨"", "Thommo"⟩⟩

theorem acceptance_of_narrowText :
    ofText narrowText = .ok narrow ∧
      Toml.decode Settings.Written.settings narrowText = .ok narrow.settings ∧
      narrow.settings.Fits ∧ narrow.settings.Dependable narrow.assignments := by
  have accepted : ofText narrowText = .ok narrow := ofText_eq_ok_of_toOption (by decide +kernel)
  obtain ⟨decodes, dependable⟩ := (acceptance_of_text narrowText).2 narrow accepted
  exact ⟨accepted, decodes, (ofText_eq_ok_iff_fits.mp accepted).2, dependable⟩

end Config

end LeagueWager
