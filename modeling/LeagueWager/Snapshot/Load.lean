import LeagueWager.Folder
import LeagueWager.Records

/-!
# Loading a snapshot

A snapshot is loaded from a JSON file. Either the file cannot be read, or its text does not decode.
-/

namespace LeagueWager.Snapshot

/-- Why a snapshot cannot be loaded. -/
inductive LoadError where
  | unreadable (path : String) (fault : FileFault)
  | undecodable (path : String) (error : Json.DecodeError)
  deriving DecidableEq, Repr

/-- What is reported of a snapshot that cannot be loaded. -/
def LoadError.message : LoadError → String
  | .unreadable path fault => s!"Failed to read snapshot from {path}: {fault.message}"
  | .undecodable path error => s!"Failed to parse snapshot from {path}: {error.message}"

/-- The snapshot in a file. -/
def load (folder : Folder) (path : String) : Except LoadError Snapshot :=
  match folder.readText path with
  | .error fault => .error (.unreadable path fault)
  | .ok text =>
    match Json.decode Records.snapshot text with
    | .ok snapshot => .ok snapshot
    | .error e => .error (.undecodable path e)

end LeagueWager.Snapshot
