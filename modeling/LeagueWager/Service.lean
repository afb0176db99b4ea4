import LeagueWager.Reads
import LeagueWager.Records

/-!
# The service

The settlement is served over HTTP as a JSON list. Only reading the rows looks at the league's
data; every other request is answered at once. All responses may be read by pages of any origin.

* `Request.plan_settles_iff`: the data are looked at exactly for reading the rows.
-/

namespace LeagueWager.Service

/-- A request: its method, and the address behind the host. -/
structure Request where
  method : String
  target : String
  deriving DecidableEq, Repr

/-- A response. -/
structure Response where
  status : Nat
  headers : List (String × String)
  body : String
  deriving DecidableEq, Repr

/-- The pages. -/
inductive Page where
  /-- The rows of the settlement. -/
  | rows
  /-- An empty page, which shows that the service is up. -/
  | health
  deriving DecidableEq, Repr

/-- The character may stand in a scheme. -/
def isSchemeChar (c : Char) : Bool := c.isAlphanum || ['+', '-', '.', '~'].contains c

/-- The text behind a scheme and a host, if there are any. -/
def dropHost (cs : List Char) : List Char :=
  match cs.dropWhile isSchemeChar with
  | ':' :: '/' :: '/' :: rest => rest.dropWhile fun c => c != '/' && c != '?' && c != '#'
  | _ => cs

/-- The path of a request, without query. -/
def Request.path (request : Request) : String :=
  String.ofList ((dropHost request.target.toList).takeWhile fun c => c != '?' && c != '#')

/-- The page at a path; the path has to match to the letter. -/
def page? (path : String) : Option Page :=
  if path = "/football/bet/data" ∨ path = "/football/bet/data/" then some .rows
  else if path = "/health" then some .health
  else none

/-- The page of a request. -/
def Request.page? (request : Request) : Option Page := Service.page? request.path

/-- The method asks for a page, or for its headers alone. -/
def Request.reads (request : Request) : Bool := request.method == "GET" || request.method == "HEAD"

/-- What every response carries: pages of any origin may read it, and what the answer hangs on. -/
def openHeaders : List (String × String) := [
  ("access-control-allow-origin", "*"),
  ("vary", "origin, access-control-request-method, access-control-request-headers")]

/-- The header that names the methods of a page. -/
def allowHeader : String × String := ("allow", "GET,HEAD")

/-- The header that gives the length of a body. -/
def lengthHeader (body : String) : String × String := ("content-length", toString body.utf8ByteSize)

/-- The rows are not to be kept. -/
def freshHeader : String × String := ("cache-control", "no-cache, no-store, must-revalidate")

/-- A response without body. -/
def empty (status : Nat) (headers : List (String × String)) : Response :=
  ⟨status, openHeaders ++ headers ++ [lengthHeader ""], ""⟩

/-- A response about the rows. -/
def aboutRows (status : Nat) (contentType body : String) : Response :=
  ⟨status, openHeaders ++ [("content-type", contentType), freshHeader, lengthHeader body], body⟩

/-- The response without its body, for a request that asks for the headers. -/
def Response.withoutBody (response : Response) : Response := { response with body := "" }

/-- How a request ends. -/
inductive Outcome where
  | answered (response : Response)
  /-- A figure of the settlement does not fit, and nothing is answered. -/
  | broken (cause : Overflow)
  deriving DecidableEq, Repr

/-- The written rows. -/
def writeRows (rows : List SettlementRow) : String :=
  (Json.Value.list (rows.map Records.writeSettlementRow)).render

/-- What is answered to a settlement; nothing is told of why one failed. -/
def ofRun : Run (List SettlementRow) → Outcome
  | .done rows => .answered (aboutRows 200 "application/json" (writeRows rows))
  | .failed _ _ =>
    .answered (aboutRows 500 "text/plain; charset=utf-8" "Failed to create bet response")
  | .overflow cause => .broken cause

/-- What has to be done for a request. -/
inductive Plan where
  | answer (response : Response)
  /-- The settlement is asked for; perhaps only the headers are sent. -/
  | settle (headersOnly : Bool)
  deriving DecidableEq, Repr

/-- The plan for a request. Another origin's question whether it may ask is always answered. -/
def Request.plan (request : Request) : Plan :=
  -- pages of other origins ask first, whether there is a page here or not
  if request.method = "OPTIONS" then
    .answer <| empty 200 <|
      [("access-control-allow-methods", "GET"), ("access-control-allow-headers", "content-type")]
        ++ if request.page?.isSome then [allowHeader] else []
  else
    match request.page? with
    | none => .answer (empty 404 [])
    | some page =>
      if request.reads then
        match page with
        | .rows => .settle (request.method == "HEAD")
        | .health => .answer (empty 200 [])
      else .answer (empty 405 [allowHeader])

/-- The end of a plan, given the settlement. -/
def Plan.finish : Plan → Run (List SettlementRow) → Outcome
  | .answer response, _ => .answered response
  | .settle false, run => ofRun run
  | .settle true, run =>
    match ofRun run with
    | .answered response => .answered response.withoutBody
    | .broken cause => .broken cause

/-- The answer to a request. -/
def serve (provider : Provider) (rules : Rules) (assignments : Trio Assignment)
    (request : Request) : Outcome :=
  request.plan.finish (provider.settle rules assignments)

/-- A request with all that comes along with it. -/
structure Message where
  request : Request
  headers : List (String × String)
  body : String
  deriving DecidableEq, Repr

/-- The answer to a message. Pages of any origin may read it, so the headers are not looked at to
see where a message comes from; and no page takes a body. -/
def receive (provider : Provider) (rules : Rules) (assignments : Trio Assignment)
    (message : Message) : Outcome :=
  serve provider rules assignments message.request

theorem Request.plan_settles_iff {request : Request} :
    (∃ headersOnly, request.plan = .settle headersOnly) ↔
      request.reads = true ∧ request.page? = some .rows := by
  unfold Request.plan
  constructor
  · rintro ⟨b, h⟩
    split at h
    · cases h
    · split at h
      · cases h
      · rename_i page hp
        split at h
        · rename_i hr
          cases page
          · exact ⟨hr, hp⟩
          · cases h
        · cases h
  · rintro ⟨hr, hp⟩
    have hm : request.method ≠ "OPTIONS" := by
      intro h
      simp [Request.reads, h] at hr
    rw [if_neg hm, hp]
    exact ⟨request.method == "HEAD", by simp [hr]⟩

theorem openHeaders_subset_empty (status : Nat) (headers : List (String × String)) :
    openHeaders ⊆ (empty status headers).headers := by
  simp [empty]

theorem openHeaders_subset_of_plan {request : Request} {response : Response}
    (h : request.plan = .answer response) : openHeaders ⊆ response.headers := by
  unfold Request.plan at h
  repeat' split at h
  all_goals first
    | (injection h with h; subst h; exact openHeaders_subset_empty _ _)
    | cases h

end LeagueWager.Service
