import LeagueWager.Address
import LeagueWager.Http.Status

/-!
# Asking a server

A server answers one request after the other, each from a state of its own. A request whose reply
sends it elsewhere is asked again there, ten times at most, if HTTP can ask there. What comes of it
all is a page, or the reason why there is none; the requests that were sent are kept in order.

Two things about a reply are left to whoever reads it: which address its location stands for, and
which text its bytes are in the charset that it announces. No result depends on how they are
settled; a plain way to settle them is `Reading.plain`.

* `Server.get_of_silence`, `Server.get_of_stays`, `Server.get_zero_of_sent`,
  `Server.get_succ_of_barred`, `Server.get_succ_of_sent`: what comes of a request, by the reply to
  it;
* `Reading.plain_granting`: a text that is sent as UTF-8, read plainly.
-/

namespace LeagueWager.Http

/-- A request for a page. -/
structure Request where
  address : Address
  /-- The token that the request carries. -/
  token : Option String
  deriving DecidableEq, Repr

/-- A reply. -/
structure Reply where
  status : Nat
  /-- Where the request is sent instead. -/
  location : Option String
  contentType : Option String
  body : ByteArray
  /-- The body ends where it should. -/
  isWhole : Bool

/-- The reply that grants a request, with the text in UTF-8. -/
def Reply.granting (text : String) : Reply := ⟨200, none, none, text.toUTF8, true⟩

/-- How replies are read. -/
structure Reading where
  /-- The address that a location stands for, seen from another. A location that is no URI stands
  for none, and the reply is then the last. -/
  place : Address → String → Option Address
  /-- The text of a body, in the charset that its type of contents announces. Every body has one. -/
  text : Option String → ByteArray → String

theorem fromUTF8?_toUTF8 (s : String) : String.fromUTF8? s.toUTF8 = some s :=
  dif_pos s.isValidUTF8

namespace Reading

/-- Where a reply sends its request. -/
def redirect? (reading : Reading) (reply : Reply) (address : Address) : Option Address :=
  if isRedirect reply.status then reply.location.bind (reading.place address) else none

theorem redirect?_of_stays {reading : Reading} {reply : Reply} (h : isRedirect reply.status = false)
    (address : Address) : reading.redirect? reply address = none := by
  unfold redirect?
  rw [h]
  rfl

/-- The text of a reply. -/
def textOf (reading : Reading) (reply : Reply) : String :=
  reading.text reply.contentType reply.body

/-- Any address is a place, and bodies are in UTF-8; those that are not are taken for empty. -/
def plain : Reading where
  place := Address.goTo
  text _ body := (String.fromUTF8? body).getD ""

theorem plain_granting (s : String) : plain.textOf (.granting s) = s := by
  unfold textOf plain Reply.granting
  dsimp only
  rw [fromUTF8?_toUTF8, Option.getD_some]

end Reading

/-- What a server does with a request. -/
inductive Answer where
  /-- The connection is refused, or ends without a reply. -/
  | silence
  | reply (reply : Reply)

/-- A server, with states `σ`, and how its replies are read. -/
structure Server (σ : Type) extends Reading where
  answer : σ → Request → Answer × σ

/-- A server in a state, with the requests that it was sent. -/
structure Line (σ : Type) where
  state : σ
  sent : List Request

/-- Sends one request. -/
def Server.ask {σ : Type} (server : Server σ) (line : Line σ) (request : Request) :
    Answer × Line σ :=
  let (answer, state) := server.answer line.state request
  (answer, ⟨state, line.sent ++ [request]⟩)

/-- What comes of a request. -/
inductive Outcome where
  /-- There is no reply at an address. -/
  | unanswered (address : Address)
  /-- The reply at an address sends the request elsewhere once too often. -/
  | lost (address : Address)
  /-- The request is sent to an address where HTTP cannot ask. -/
  | barred (address : Address)
  /-- A reply. -/
  | page (reply : Reply)

/-- Asks for a page; `more` is how often it may be elsewhere. -/
def Server.get {σ : Type} (server : Server σ) :
    Nat → Line σ → Request → Outcome × Line σ
  | more, line, request =>
    let (answer, line) := server.ask line request
    match answer with
    | .silence => (.unanswered request.address, line)
    | .reply reply =>
      match server.redirect? reply request.address with
      | none => (.page reply, line)
      | some address =>
        match more with
        | 0 => (.lost request.address, line)
        | more + 1 =>
          if address.isAskable then server.get more line { request with address := address }
          else (.barred address, line)

namespace Server

variable {σ : Type} {server : Server σ} {line : Line σ} {request : Request}
variable {reply : Reply} {place : Address}

theorem get_of_silence (silent : (server.ask line request).1 = .silence) (more : Nat) :
    server.get more line request
      = (.unanswered request.address, (server.ask line request).2) := by
  unfold get
  dsimp only
  rw [silent]

theorem get_of_stays (replied : (server.ask line request).1 = .reply reply)
    (stays : server.redirect? reply request.address = none) (more : Nat) :
    server.get more line request = (.page reply, (server.ask line request).2) := by
  unfold get
  dsimp only
  rw [replied]
  dsimp only
  rw [stays]

section

variable (replied : (server.ask line request).1 = .reply reply)
variable (sent : server.redirect? reply request.address = some place)

include replied sent

theorem get_zero_of_sent :
    server.get 0 line request = (.lost request.address, (server.ask line request).2) := by
  unfold get
  dsimp only
  rw [replied]
  dsimp only
  rw [sent]

theorem get_succ_of_barred (barred : place.isAskable = false) (more : Nat) :
    server.get (more + 1) line request = (.barred place, (server.ask line request).2) := by
  rw [get]
  dsimp only
  rw [replied]
  dsimp only
  rw [sent]
  dsimp only
  rw [barred]
  exact if_neg Bool.false_ne_true

theorem get_succ_of_sent (askable : place.isAskable = true) (more : Nat) :
    server.get (more + 1) line request
      = server.get more (server.ask line request).2 { request with address := place } := by
  rw [get]
  dsimp only
  rw [replied]
  dsimp only
  rw [sent]
  exact if_pos askable

end

end Server

end LeagueWager.Http
