import LeagueWager.Address.Escaped

/-!
# Users in addresses

An address may name a user in front of its host, perhaps with a password. Both are escaped texts.
-/

namespace LeagueWager.Address

/-- A user, as it is written in an address. -/
structure User where
  name : List Char
  password : Option (List Char)
  deriving DecidableEq, Repr

namespace User

/-- The user that a text names: a name, and behind the first colon a password. -/
def ofText? (cs : List Char) : Option User :=
  let (name, rest) := cs.span (· != ':')
  match name, rest.drop 1 with
  | [], [] => none
  | name, [] => some ⟨escape badInUser name, none⟩
  | name, password => some ⟨escape badInUser name, some (escape badInUser password)⟩

/-- The user, as it stands in front of a host. -/
def render (user : User) : List Char :=
  user.name ++ (match user.password with
    | some password => ':' :: password
    | none => []) ++ ['@']

/-- The text behind the escapes, if it is one. -/
def plain? (cs : List Char) : Option String := String.fromUTF8? ⟨(unescape cs).toArray⟩

/-- The user can be told to a server: the name is a text, and it or the password says something. -/
def isLegible (user : User) : Bool :=
  match plain? user.name with
  | some name => !name.isEmpty || (user.password.bind plain?).isSome
  | none => false

end User

end LeagueWager.Address
