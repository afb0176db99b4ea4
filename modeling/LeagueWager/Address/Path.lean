import LeagueWager.Address.Escaped
import LeagueWager.Text.Parts

/-!
# Paths

A path leads by steps, written behind slashes. Steps up and steps that stay are taken when it is
read; a step to a drive is never taken back. The path of a file starts at a drive or at its first
step that is not empty.
-/

namespace LeagueWager.Address

open Text (split)

/-! ## Steps -/

/-- A step that stays where it is. -/
def isStay (step : List Char) : Bool :=
  [".", "%2e"].contains (String.ofList (step.map Char.toLower))

/-- A step up. -/
def isUp (step : List Char) : Bool :=
  ["..", ".%2e", "%2e.", "%2e%2e"].contains (String.ofList (step.map Char.toLower))

/-- The step begins with a drive: a letter, then a colon or a bar, then its end. -/
def startsAtDrive : List Char → Bool
  | c :: d :: rest =>
    c.isAlpha && (d == ':' || d == '|') && rest.head?.all (· == '\\')
  | _ => false

/-- The step is a drive. -/
def isDrive (step : List Char) : Bool := step.length == 2 && startsAtDrive step

/-- The place above a place; there is none above a drive. -/
def up (place : List (List Char)) : List (List Char) :=
  if place.getLast?.any startsAtDrive then place else place.dropLast

/-- The written form of a step. A drive at which a file's path starts has its colon. -/
def writeStep (isFile : Bool) (place : List (List Char)) (step : List Char) : List Char :=
  if isFile && place.isEmpty && isDrive step then step.take 1 ++ [':'] else escape badInPath step

/-- Takes the steps of a path. A step up or none at its end leaves the path open. -/
def walk (isFile : Bool) : List (List Char) → List (List Char) → List (List Char)
  | place, [] => place
  | place, [step] =>
    if isUp step then up place ++ [[]]
    else if isStay step then place ++ [[]]
    else place ++ [writeStep isFile place step]
  | place, step :: steps =>
    if isUp step then walk isFile (up place) steps
    else if isStay step then walk isFile place steps
    else walk isFile (place ++ [writeStep isFile place step]) steps

/-! ## Paths -/

/-- The character separates the parts of a path. -/
def isSlash (isSpecial : Bool) (c : Char) : Bool := c == '/' || (isSpecial && c == '\\')

/-- The text in front of a query or a fragment, and the rest. -/
def splitPath (cs : List Char) : List Char × List Char :=
  let inPath (c : Char) : Bool := c != '?' && c != '#'
  (cs.takeWhile inPath, cs.dropWhile inPath)

/-- The written path. -/
def writePath (place : List (List Char)) : List Char := place.flatMap ('/' :: ·)

/-- The path that leads from a place by the steps of a text. -/
def pathFrom (place : List (List Char)) (isSpecial : Bool) (cs : List Char) : List Char :=
  writePath (walk false place (split (isSlash isSpecial) cs))

/-- The path behind a host. -/
def pathOf (isSpecial : Bool) (cs : List Char) : List Char :=
  match cs with
  | [] => if isSpecial then ['/'] else []
  | c :: rest => pathFrom [] isSpecial (if isSlash isSpecial c then rest else c :: rest)

/-- The path of a file, and whether it starts at a drive. -/
def filePath (cs : List Char) : List Char × Bool :=
  let place := walk true [] (split (isSlash true) cs)
  match place.dropWhile List.isEmpty with
  | [] => (['/'], false)
  | steps => (writePath steps, place.head?.any isDrive)

end LeagueWager.Address
