import LeagueWager.Wager

/-!
# The configuration

The settings of a wager as they are given, and the configuration that they make if they fit
together: three parties with different teams, positive rules, and a path if the data come from a
file.

* `firstRepeat_eq_none_iff`: no text is found to repeat exactly if all are different;
* `Settings.check_eq_ok_iff`: which settings fit together, and into which configuration;
* `Settings.assignments?_eq_none_iff`: of which settings no assignments can be made.
-/

namespace LeagueWager

/-- Where the league's data come from. -/
inductive ProviderKind where
  /-- A feed that is asked over the network. -/
  | feed
  /-- A snapshot in a file. -/
  | file
  deriving DecidableEq, Repr

/-- The code of a kind of provider. -/
def ProviderKind.code : ProviderKind → String
  | .feed => "football_data"
  | .file => "file"

/-- What is set for the provider of the league's data. -/
structure ProviderSettings where
  kind : ProviderKind
  baseUrl : String
  competition : String
  /-- The environment variable that holds the key for the feed. -/
  keyVariable : Option String
  /-- The time for each request. -/
  timeoutSeconds : UInt64
  /-- How long what was fetched is used again; never if zero. -/
  cacheSeconds : UInt64
  snapshotPath : Option String
  deriving DecidableEq, Repr

/-- A party to the wager: a team, and the player who holds it. -/
structure Party where
  team : String
  player : String
  deriving DecidableEq, Repr

/-- The settings as they are given. -/
structure Settings where
  port : UInt16
  rules : Rules
  provider : ProviderSettings
  parties : List Party
  deriving DecidableEq, Repr

/-- The settings of a wager that can be settled. -/
structure Config where
  port : UInt16
  rules : Rules
  provider : ProviderSettings
  parties : Trio Party
  deriving DecidableEq, Repr

/-- Why settings do not fit together. -/
inductive SetupError where
  | partyCount (found : Nat)
  | repeatedTeam (team : String)
  | seasonLength
  | stakePerPoint
  | noSnapshotPath
  deriving DecidableEq, Repr

/-- What is reported of settings that do not fit together. -/
def SetupError.message : SetupError → String
  | .partyCount found => s!"expected exactly 3 [[wager]] entries, found {found}"
  | .repeatedTeam team => s!"team {team} appears in more than one wager entry"
  | .seasonLength => "league.season_length must be positive"
  | .stakePerPoint => "league.stake_per_point must be positive"
  | .noSnapshotPath => "provider.snapshot_path is required when provider.kind = \"file\""

/-- The first of the texts that was there before, or in `seen`. -/
def firstRepeat (seen : List String) : List String → Option String
  | [] => none
  | s :: rest => if s ∈ seen then some s else firstRepeat (s :: seen) rest

/-- The configuration of settings that fit together, or the first reason why they do not. -/
def Settings.check (s : Settings) : Except SetupError Config :=
  match s.parties with
  | [first, second, third] =>
    match firstRepeat [] (s.parties.map Party.team) with
    | some team => .error (.repeatedTeam team)
    | none =>
      if s.rules.seasonLength ≤ 0 then .error .seasonLength
      else if s.rules.stakePerPoint ≤ 0 then .error .stakePerPoint
      else if s.provider.kind = .file ∧ s.provider.snapshotPath = none then .error .noSnapshotPath
      else .ok ⟨s.port, s.rules, s.provider, ⟨first, second, third⟩⟩
  | parties => .error (.partyCount parties.length)

namespace Settings

/-- The assignment of the party at the place `own` of the list against those at `a` and `b`;
nothing if there is none at one of these places. -/
def assignment? (s : Settings) (own a b : Nat) : Option Assignment := do
  let party ← s.parties[own]?
  let rival ← s.parties[a]?
  let other ← s.parties[b]?
  some ⟨party.team, party.player, rival.team, other.team⟩

/-- Each party's assignment by the places in the list, checked or not. -/
def assignments? (s : Settings) : Option (Trio Assignment) := do
  let first ← s.assignment? 0 1 2
  let second ← s.assignment? 1 0 2
  let third ← s.assignment? 2 0 1
  some ⟨first, second, third⟩

end Settings

namespace Config

/-- The settings that the configuration is made of. -/
def settings (c : Config) : Settings := ⟨c.port, c.rules, c.provider, c.parties.toList⟩

/-- Each party's assignment: its rivals are the other two teams, in order. -/
def assignments (c : Config) : Trio Assignment :=
  let p := c.parties
  ⟨⟨p.first.team, p.first.player, p.second.team, p.third.team⟩,
    ⟨p.second.team, p.second.player, p.first.team, p.third.team⟩,
    ⟨p.third.team, p.third.player, p.first.team, p.second.team⟩⟩

theorem assignments?_settings (c : Config) : c.settings.assignments? = some c.assignments := rfl

end Config

/-- Assignments go beyond the end of the list exactly if it has less than three parties. -/
theorem Settings.assignments?_eq_none_iff {s : Settings} :
    s.assignments? = none ↔ s.parties.length < 3 := by
  obtain ⟨port, rules, provider, parties⟩ := s
  match parties with
  | [] => exact iff_of_true rfl (by simp)
  | [_] => exact iff_of_true rfl (by simp)
  | [_, _] => exact iff_of_true rfl (by simp)
  | _ :: _ :: _ :: _ => exact iff_of_false (fun h => nomatch h) (by simp)

theorem firstRepeat_eq_none_iff {seen texts : List String} :
    firstRepeat seen texts = none ↔ texts.Nodup ∧ ∀ s ∈ texts, s ∉ seen := by
  induction texts generalizing seen with
  | nil => simp [firstRepeat]
  | cons s rest ih =>
    rw [firstRepeat]
    split
    · rename_i h
      simp only [reduceCtorEq, List.mem_cons, forall_eq_or_imp, false_iff, not_and]
      intro _ hs
      exact absurd h hs
    · rename_i h
      rw [ih, List.nodup_cons]
      grind

/-- **Which settings fit together.** -/
theorem Settings.check_eq_ok_iff {s : Settings} {c : Config} :
    s.check = .ok c ↔ s.parties = c.parties.toList ∧ (s.parties.map Party.team).Nodup ∧
      0 < s.rules.seasonLength ∧ 0 < s.rules.stakePerPoint ∧
      (s.provider.kind = .file → s.provider.snapshotPath ≠ none) ∧
      c.port = s.port ∧ c.rules = s.rules ∧ c.provider = s.provider := by
  have nodup_iff : firstRepeat [] (s.parties.map Party.team) = none ↔
      (s.parties.map Party.team).Nodup := by
    simp [firstRepeat_eq_none_iff]
  constructor
  · intro h
    unfold check at h
    split at h
    · rename_i first second third hp
      split at h
      · cases h
      · rename_i hnone
        rw [nodup_iff] at hnone
        split at h
        · cases h
        · rename_i season
          split at h
          · cases h
          · rename_i stake
            split at h
            · cases h
            · rename_i path
              cases h
              exact ⟨hp, hnone, Int32.not_le.mp season, Int32.not_le.mp stake,
                fun file none => path ⟨file, none⟩, rfl, rfl, rfl⟩
    · cases h
  · obtain ⟨port, rules, provider, ⟨first, second, third⟩⟩ := c
    rintro ⟨hp, nodup, season, stake, path, rfl, rfl, rfl⟩
    have hp : s.parties = [first, second, third] := hp
    have hnone := nodup_iff.mpr nodup
    unfold check
    rw [hp] at hnone ⊢
    dsimp only
    rw [hnone]
    dsimp only
    rw [if_neg (Int32.not_le.mpr season), if_neg (Int32.not_le.mpr stake),
      if_neg fun file => path file.1 file.2]

end LeagueWager
