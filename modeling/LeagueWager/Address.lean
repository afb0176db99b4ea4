import LeagueWager.Address.Host
import LeagueWager.Address.Path
import LeagueWager.Address.User

/-!
# Addresses

An address names a scheme, perhaps a host and a user there, and a path, query and fragment. It is
read from any text: blanks around it do not count, steps up and down the path are taken, and what
may not stand in a part is escaped. Schemes of the web have a host and a path at all times; not all
of them can be asked for.
-/

namespace LeagueWager

/-- An address. -/
structure Address where
  scheme : String
  /-- Who asks. -/
  user : Option Address.User
  /-- The host in its written form; empty if the address has the place of one only. -/
  host : Option (List Char)
  /-- A port other than the scheme's own. -/
  port : Option Nat
  path : List Char
  query : Option (List Char)
  fragment : Option (List Char)
  deriving DecidableEq, Repr

namespace Address

open Text (split join)

/-- The port of a scheme of the web, if it has one. -/
def ownPort (scheme : String) : Option Nat :=
  [("http", 80), ("https", 443), ("ws", 80), ("wss", 443), ("ftp", 21)].lookup scheme

/-- A scheme of the web. -/
def isWeb (scheme : String) : Bool := (ownPort scheme).isSome

/-- A scheme whose addresses have a path between slashes at all times. -/
def isSpecial (scheme : String) : Bool := isWeb scheme || scheme == "file"

/-- The address has a host. -/
def hasHost (a : Address) : Bool := a.host.any (!·.isEmpty)

/-- The written address. -/
def render (a : Address) : String :=
  let host := match a.host with
    | some name =>
      ['/', '/'] ++ (a.user.map User.render).getD [] ++ name ++ match a.port with
        | some port => ':' :: Nat.toDigits 10 port
        | none => []
    | none => if a.path.take 2 == ['/', '/'] then ['/', '.'] else []
  let query := match a.query with
    | some q => '?' :: q
    | none => []
  let fragment := match a.fragment with
    | some f => '#' :: f
    | none => []
  a.scheme ++ String.ofList (':' :: (host ++ a.path ++ query ++ fragment))

/-- The address can be asked for by HTTP: no character of its host is left that has to be escaped,
and it is not too long. -/
def isAskable (a : Address) : Bool :=
  (a.scheme == "http" || a.scheme == "https")
    && !a.host.any (·.any ['\x22', '\x60', '\x7b', '\x7d'].contains)
    && a.render.length ≤ 65534

/-- What is asked of the host: the path and the query. -/
def target (a : Address) : String :=
  String.ofList (a.path ++ match a.query with
    | some q => '?' :: q
    | none => [])

/-! ## Parts of a text -/

/-- The text without blanks and control characters around it, and without line breaks and tabs. -/
def clean (cs : List Char) : List Char :=
  let trim (cs : List Char) : List Char := cs.dropWhile fun c => c.toNat ≤ 32
  (trim (trim cs).reverse).reverse.filter fun c => c != '\t' && c != '\n' && c != '\r'

/-- The scheme in front of its colon, and what follows that. -/
def scheme? (cs : List Char) : Option (String × List Char) :=
  let name := cs.takeWhile fun c => c.isAlphanum || c == '+' || c == '-' || c == '.'
  match name, cs.drop name.length with
  | c :: _, ':' :: rest =>
    if c.isAlpha then some (String.ofList (name.map Char.toLower), rest) else none
  | _, _ => none

/-- The character ends what stands in front of a path. -/
def endsAuthority (isSpecial : Bool) (c : Char) : Bool :=
  isSlash isSpecial c || c == '?' || c == '#'

/-- The query and the fragment behind a path. -/
def tail (scheme : String) (cs : List Char) : Option (List Char) × Option (List Char) :=
  let (query, rest) := cs.span (· != '#')
  let query := match query with
    | _ :: query => some (escape (badInQuery (isSpecial scheme)) query)
    | [] => none
  let fragment := match rest with
    | _ :: fragment => some (escape badInFragment fragment)
    | [] => none
  (query, fragment)

/-! ## Hosts and ports -/

/-- The host in front of the colon of a port, and what follows the colon. Colons between brackets
do not count. -/
def splitPort (inside : Bool) : List Char → List Char × Option (List Char)
  | [] => ([], none)
  | c :: rest =>
    if c = ':' ∧ inside = false then ([], some rest)
    else
      let (host, port) := splitPort (c = '[' || (inside && c != ']')) rest
      (c :: host, port)

/-- The port of a text: none if it is empty or the scheme's own. -/
def port? (scheme : String) (cs : List Char) : Option (Option Nat) :=
  let n := Text.ofDigits 10 cs
  if cs.isEmpty then some none
  else if cs.all Char.isDigit ∧ n < 65536 then
    some (if ownPort scheme = some n then none else some n)
  else none

/-- What is in front of the last at sign of a text, if there is one, and what is behind it. -/
def splitUser (authority : List Char) : Option (List Char) × List Char :=
  let parts := split (· == '@') authority
  match parts.dropLast with
  | [] => (none, authority)
  | front => (some (join '@' front), parts.getLast?.getD [])

/-- The address behind two slashes. -/
def behindSlashes (scheme : String) (cs : List Char) : Option Address := do
  let special := isSpecial scheme
  let (authority, rest) := cs.span fun c => !endsAuthority special c
  let (userText, place) := splitUser authority
  let (name, behind) := splitPort false place
  -- a backslash ends a port under any scheme, and what follows belongs to the path
  let (portText, more) := (behind.getD []).span (· != '\\')
  let port ← port? scheme portText
  let host ← if special then host? name else otherHost? name
  let user := userText.bind User.ofText?
  let isCutShort := userText = some [] && place.isEmpty && !rest.isEmpty
  -- without a host there is nobody to name and no port to ask at
  if isCutShort || (host.isEmpty && (behind.isSome || user.isSome)) then none
  else
    let (path, rest) := splitPath (more ++ rest)
    let (query, fragment) := tail scheme rest
    some ⟨scheme, user, some host, port, pathOf special path, query, fragment⟩

/-- The host of a file, behind two slashes, with the text of its path. A drive in the place of the
host belongs to the path, and the local host is none: the path then keeps its slash. -/
def fileHost? (cs : List Char) : Option (List Char × List Char) :=
  let (name, rest) := cs.span fun c => !endsAuthority true c
  if isDrive name then some ([], cs)
  else if name.isEmpty then some ([], rest)
  else do
    let host ← host? name
    if host = "localhost".toList then some ([], rest)
    else some (host, if rest.head?.any (isSlash true) then rest.drop 1 else rest)

/-- The address of a file, behind its scheme. -/
def ofFile (cs : List Char) : Option Address := do
  let (host, cs) ← match cs with
    | a :: b :: rest =>
      if isSlash true a && isSlash true b then fileHost? rest
      else some ([], if isSlash true a then b :: rest else a :: b :: rest)
    | cs => some ([], if cs.head?.any (isSlash true) then [] else cs)
  let (path, rest) := splitPath cs
  let (query, fragment) := tail "file" rest
  let (path, startsAtDrive) := filePath path
  -- a drive is here, on whatever host it was looked for
  let host := if startsAtDrive then [] else host
  some ⟨"file", none, some host, none, path, query, fragment⟩

/-- The address behind a scheme that is not known. -/
def ofOther (scheme : String) (cs : List Char) : Option Address :=
  match cs with
  | '/' :: '/' :: rest => behindSlashes scheme rest
  | cs =>
    let (path, rest) := splitPath cs
    let (query, fragment) := tail scheme rest
    let path := match path with
      | '/' :: steps => pathFrom [] false steps
      | path => escape isControl path
    some ⟨scheme, none, none, none, path, query, fragment⟩

/-- The address behind a scheme. -/
def behindScheme (scheme : String) (cs : List Char) : Option Address :=
  if scheme = "file" then ofFile cs
  else if isWeb scheme then behindSlashes scheme (cs.dropWhile (isSlash true))
  else ofOther scheme cs

/-- The address that a text gives by itself. -/
def ofText (s : String) : Option Address := do
  let (scheme, rest) ← scheme? (clean s.toList)
  behindScheme scheme rest

/-! ## Addresses that start from another -/

/-- The address without its fragment. -/
def withoutFragment (a : Address) : Address := { a with fragment := none }

/-- The address without its user, if that is one that a server can be told. -/
def withoutUser (a : Address) : Address :=
  { a with user := a.user.filter (!·.isLegible) }

/-- The steps of a path up to its last slash. -/
def folder (a : Address) : List (List Char) := (split (· == '/') (a.path.drop 1)).dropLast

/-- The address that a text gives, seen from an address of the web. -/
def relative (a : Address) (cs : List Char) : Option Address :=
  let behind (place : List (List Char)) (cs : List Char) : Address :=
    let (path, rest) := splitPath cs
    let (query, fragment) := tail a.scheme rest
    { a with path := pathFrom place true path, query := query, fragment := fragment }
  match cs with
  | [] => some a.withoutFragment
  | c :: rest =>
    if c = '?' ∨ c = '#' then
      let (query, fragment) := tail a.scheme (c :: rest)
      some { a with query := if c = '?' then query else a.query, fragment := fragment }
    else if isSlash true c then
      if rest.head?.any (isSlash true) then
        behindSlashes a.scheme ((c :: rest).dropWhile (isSlash true))
      else some (behind [] rest)
    else some (behind a.folder (c :: rest))

/-- The address that a text gives, seen from an address of the web, if it names no other scheme. -/
def goTo (a : Address) (s : String) : Option Address :=
  let cs := clean s.toList
  match scheme? cs with
  | none => a.relative cs
  | some (scheme, rest) =>
    let slashes := (rest.takeWhile (isSlash true)).length
    if scheme = a.scheme ∧ slashes < 2 then a.relative rest else behindScheme scheme rest

end Address

end LeagueWager
