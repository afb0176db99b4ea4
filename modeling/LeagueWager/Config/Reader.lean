import LeagueWager.Config
import LeagueWager.Folder
import LeagueWager.Toml.Decode

/-!
# Reading the configuration

The settings are a TOML document: a server, the league's rules, the provider of the data, and the
parties to the wager. What is not given has a usual value, if it has one.

* `Config.ofText_eq_ok_iff`: a text is accepted exactly if it decodes to settings that fit together.
-/

namespace LeagueWager

open Toml

namespace Settings.Written

/-- The port of a server. -/
def server : Decoder UInt16 :=
  record "ServerConfig" ((Shape.make id).field "port" natural16 .required)

/-- The rules of a league. -/
def league : Decoder Rules :=
  record "LeagueConfig" <| (Shape.make Rules.mk)
    |>.field "season_length" integer32 (.default Rules.standard.seasonLength)
    |>.field "stake_per_point" integer32 (.default Rules.standard.stakePerPoint)

/-- A kind of provider by its code. -/
def providerKind : Decoder ProviderKind :=
  oneOf ([ProviderKind.feed, .file].map fun kind => (kind.code, kind))

/-- The settings of a provider. -/
def provider : Decoder ProviderSettings :=
  record "ProviderConfig" <| (Shape.make ProviderSettings.mk)
    |>.field "kind" providerKind .required
    |>.field "base_url" text (.default "https://api.football-data.org/v4")
    |>.field "competition" text (.default "PL")
    |>.field "api_key_env" (optional text) (.named none)
    |>.field "timeout_secs" natural64 (.default 3)
    |>.field "cache_ttl_secs" natural64 (.default 15)
    |>.field "snapshot_path" (optional text) (.named none)

/-- A party to the wager. -/
def party : Decoder Party :=
  record "WagerConfig" <| (Shape.make Party.mk)
    |>.field "team" text .required
    |>.field "player" text .required

/-- All settings. -/
def settings : Decoder Settings :=
  record "AppConfig" <| (Shape.make Settings.mk)
    |>.field "server" server .required
    |>.field "league" league (.default .standard)
    |>.field "provider" provider .required
    |>.field "wager" (list party) .required

end Settings.Written

/-- Why a text is no configuration. -/
inductive ConfigError where
  | undecodable (error : DecodeError)
  | unfit (error : SetupError)
  deriving DecidableEq, Repr

/-- What is reported of a text that is no configuration. -/
def ConfigError.message : ConfigError → String
  | .undecodable e => e.message
  | .unfit e => e.message

namespace Config

/-- The configuration that a text gives. -/
def ofText (text : String) : Except ConfigError Config :=
  match decode Settings.Written.settings text with
  | .error e => .error (.undecodable e)
  | .ok settings =>
    match settings.check with
    | .error e => .error (.unfit e)
    | .ok config => .ok config

/-- Why a configuration cannot be loaded. -/
inductive LoadError where
  | unreadable (path : String) (fault : FileFault)
  | unusable (path : String) (error : ConfigError)
  deriving DecidableEq, Repr

/-- What is reported of a configuration that cannot be loaded. -/
def LoadError.message : LoadError → String
  | .unreadable path fault => s!"Failed to read config file: {path}: {fault.message}"
  | .unusable path error => s!"Failed to parse config file: {path}: {error.message}"

/-- The configuration in a file. -/
def load (folder : Folder) (path : String) : Except LoadError Config :=
  match folder.readText path with
  | .error fault => .error (.unreadable path fault)
  | .ok text =>
    match ofText text with
    | .error e => .error (.unusable path e)
    | .ok config => .ok config

theorem ofText_eq_ok_iff {text : String} {config : Config} :
    ofText text = .ok config ↔
      ∃ settings, decode Settings.Written.settings text = .ok settings ∧
        settings.check = .ok config := by
  unfold ofText
  constructor
  · intro h
    split at h
    · cases h
    · rename_i settings hd
      split at h
      · cases h
      · rename_i c hc
        cases h
        exact ⟨settings, hd, hc⟩
  · rintro ⟨settings, hd, hc⟩
    rw [hd]
    simp only [hc]

/-- To see that a text is accepted, it is enough to see what it gives. -/
theorem ofText_eq_ok_of_toOption {text : String} {config : Config}
    (h : (ofText text).toOption = some config) : ofText text = .ok config := by
  cases hc : ofText text with
  | error e =>
    rw [hc] at h
    cases h
  | ok found =>
    rw [hc] at h
    exact congrArg Except.ok (Option.some.inj h)

end Config

end LeagueWager
