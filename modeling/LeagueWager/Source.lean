import LeagueWager.Feed
import LeagueWager.Snapshot.Load

/-!
# Where the data come from

The settings of a provider lead to a feed, with a key from the environment, or to a snapshot from
a file.

* `key_eq_error_iff`: a key is missed exactly if its variable is named and not set;
* `ofSettings_eq_noSnapshotPath_iff`: a path is missed exactly by a file's settings without one.
-/

namespace LeagueWager

/-- The variables of an environment. -/
abbrev Environment := List (String × String)

/-- Where the data come from. -/
inductive Source where
  | feed (feed : Feed)
  | snapshot (snapshot : Snapshot)

namespace Source

/-- Why there is no source of data. -/
inductive Error where
  | unsetVariable (name : String)
  | noSnapshotPath
  | unloadable (error : Snapshot.LoadError)
  deriving DecidableEq, Repr

/-- What is reported where there is no source of data. -/
def Error.message : Error → String
  | .unsetVariable name =>
    s!"Environment variable not set: {name}: environment variable not found"
  | .noSnapshotPath => "provider.snapshot_path is required for the file provider"
  | .unloadable e => e.message

/-- The key that an environment variable holds, if one is named. -/
def key (environment : Environment) : Option String → Except Error (Option String)
  | none => .ok none
  | some name =>
    match environment.lookup name with
    | some value => .ok (some value)
    | none => .error (.unsetVariable name)

/-- The source of these settings. -/
def ofSettings (folder : Folder) (environment : Environment) (settings : ProviderSettings) :
    Except Error Source :=
  match settings.kind with
  | .feed =>
    match key environment settings.keyVariable with
    | .ok k => .ok (.feed (.ofSettings settings k))
    | .error e => .error e
  | .file =>
    match settings.snapshotPath with
    | none => .error .noSnapshotPath
    | some path =>
      match Snapshot.load folder path with
      | .ok loaded => .ok (.snapshot loaded)
      | .error e => .error (.unloadable e)

theorem key_eq_error_iff {environment : Environment} {named : Option String} {e : Error} :
    key environment named = .error e ↔
      ∃ name, named = some name ∧ environment.lookup name = none ∧ e = .unsetVariable name := by
  unfold key
  constructor
  · intro h
    split at h
    · cases h
    · rename_i name
      split at h
      · cases h
      · rename_i unset
        cases h
        exact ⟨name, rfl, unset, rfl⟩
  · rintro ⟨name, rfl, unset, rfl⟩
    dsimp only
    rw [unset]

theorem ofSettings_eq_noSnapshotPath_iff {folder : Folder} {environment : Environment}
    {settings : ProviderSettings} :
    ofSettings folder environment settings = .error .noSnapshotPath ↔
      settings.kind = .file ∧ settings.snapshotPath = none := by
  unfold ofSettings
  cases settings.kind with
  | feed =>
    -- a feed can lack its key, but has no path
    cases hk : key environment settings.keyVariable with
    | ok k => simp
    | error e =>
      obtain ⟨name, _, _, rfl⟩ := key_eq_error_iff.mp hk
      simp
  | file =>
    cases settings.snapshotPath with
    | none => simp
    | some path => cases hl : Snapshot.load folder path <;> simp [hl]

end Source

end LeagueWager
