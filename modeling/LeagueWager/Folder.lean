import LeagueWager.Text.Parts

/-!
# A folder of files

Files are read by name, as text. A path is walked name by name from the folder: an empty name or a
dot stays in a folder, two dots go to the one above. Of what lies outside the folder only this is
known, that there are folders above it; no name is found there.
-/

namespace LeagueWager

/-- Why a file cannot be read as text. -/
inductive FileFault where
  /-- There is nothing of a name of the path. -/
  | notFound
  /-- The path leads on from a file. -/
  | notFolder
  /-- The path ends at a folder. -/
  | isFolder
  /-- No path is written like this one. -/
  | notPath
  /-- A name of the path, or the path, is too long. -/
  | tooLong
  /-- Its bytes are not UTF-8. -/
  | notText
  deriving DecidableEq, Repr

/-- The kind of a fault, as it is reported. -/
def FileFault.message : FileFault → String
  | .notFound => "NotFound"
  | .notFolder => "NotADirectory"
  | .isFolder => "IsADirectory"
  | .notPath => "InvalidInput"
  | .tooLong => "InvalidFilename"
  | .notText => "InvalidData"

/-- Files with their contents. -/
structure Folder where
  files : List (String × ByteArray)

/-- Where a walk has come to. -/
inductive Place where
  /-- A folder inside, by the names that lead to it. -/
  | inside (names : List (List Char))
  /-- A folder outside. -/
  | outside
  | file (contents : ByteArray)

namespace Folder

/-- The name stays where it is. -/
def isStay (name : List Char) : Bool := name == [] || name == ['.']

/-- The names of a path, those that stay included. -/
def names (path : String) : List (List Char) := Text.split (· == '/') path.toList

/-- The names that lead to a file. -/
def fileNames (file : String × ByteArray) : List (List Char) := (names file.1).filter (!isStay ·)

/-- The folder above a place. -/
def above : Place → Place
  | .inside [] => .outside
  | .inside names => .inside names.dropLast
  | place => place

/-- What the names lead to. -/
def at? (folder : Folder) (names : List (List Char)) : Option Place :=
  match folder.files.find? fun file => fileNames file == names with
  | some file => some (.file file.2)
  | none =>
    if folder.files.any fun file => names.isPrefixOf (fileNames file) then some (.inside names)
    else none

/-- The size of a text in UTF-8. -/
def size (cs : List Char) : Nat := (String.ofList cs).utf8ByteSize

/-- Goes on from a place by one name. -/
def enter (folder : Folder) (place : Place) (name : List Char) : Except FileFault Place :=
  match place with
  | .file _ => .error .notFolder
  | place =>
    if isStay name then .ok place
    else if name = ['.', '.'] then .ok (above place)
    else if 255 < size name then .error .tooLong
    else
      match place with
      | .inside names => ((folder.at? (names ++ [name])).map .ok).getD (.error .notFound)
      | _ => .error .notFound

/-- Goes on from a place by several names. -/
def walk (folder : Folder) : Place → List (List Char) → Except FileFault Place
  | place, [] => .ok place
  | place, name :: names => do folder.walk (← folder.enter place name) names

/-- The place that a path leads to. A path that begins with a slash starts outside. -/
def find (folder : Folder) (path : String) : Except FileFault Place :=
  if path.toList.contains '\x00' then .error .notPath
  else if path.isEmpty then .error .notFound
  else if 4095 < size path.toList then .error .tooLong
  else folder.walk (if path.toList.head? = some '/' then .outside else .inside []) (names path)

/-- The text of a file. -/
def readText (folder : Folder) (path : String) : Except FileFault String := do
  match ← folder.find path with
  | .file bytes =>
    match String.fromUTF8? bytes with
    | some text => .ok text
    | none => .error .notText
  | _ => .error .isFolder

end Folder

end LeagueWager
