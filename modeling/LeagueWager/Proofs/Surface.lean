import LeagueWager.Proofs.Asked
import LeagueWager.Proofs.Containment

/-!
# What can be seen of the service

A message is handled in one of two ways. Most messages are answered at once. One that asks for the
rows, or for their headers alone, starts a settlement, and is answered from whatever the settlement
ends with in the order that its tasks happen to take. Here is what can be seen from outside: which
messages have the league's data looked at, what all answers carry, what no answer about the rows
goes without, and that failures look the same.

* `Course.Reachable.asked_ne_nil`: no settlement ends before something was read;
* `plan_of_asksForRows`, `exists_plan_of_not`: which messages start a settlement;
* `Handles`: how a message can be handled, in any order of the tasks;
* `answers_of_messages`: all of it together.
-/

namespace LeagueWager

/-! ## Ends come after reads -/

namespace Course

variable {rules : Rules} {assignments : Trio Assignment} {reads : Trio Reads}
variable {returns : ReadOf → Prop} {c c' : Course}

/-- As long as no read is back, nothing has ended. -/
def Waiting (c : Course) : Prop := c.back = [] → (∀ seat, c.closed seat = none) ∧ c.ended = none

theorem waiting_step (h : c.Waiting) (hs : Step rules assignments reads returns c c') :
    c'.Waiting := by
  intro none
  cases hs with
  | begin _ => exact h none
  | spawn _ _ => exact h none
  | ask _ _ _ => exact h none
  | answer _ _ _ => cases none
  | fail _ back _ _ =>
    replace none : c.back = [] := none
    rw [none] at back
    cases back
  | build _ back _ _ =>
    have back := back .leagueEntry
    replace none : c.back = [] := none
    rw [none] at back
    cases back
  | stop _ _ failed =>
    rw [(h none).1] at failed
    cases failed
  | finish _ _ all =>
    have first := all .first
    rw [(h none).1] at first
    cases first

theorem Reachable.waiting (h : Reachable rules assignments reads returns c) : c.Waiting := by
  induction h with
  | start => exact fun _ => ⟨fun _ => rfl, rfl⟩
  | tail _ hs ih => exact waiting_step ih hs

/-- **A settlement that has ended has asked for something.** -/
theorem Reachable.asked_ne_nil (h : Reachable rules assignments reads returns c)
    {x : Except Failure (Trio Projection)} (hx : c.ended = some x) : c.asked ≠ [] := by
  intro none
  have back : c.back = [] := by
    rw [List.eq_nil_iff_forall_not_mem]
    intro read hr
    have asked := h.returned.asked read hr
    rw [none] at asked
    cases asked
  rw [(h.waiting back).2] at hx
  cases hx

end Course

namespace Service

variable {request : Request} {message : Message} {response : Response} {outcome : Outcome}
variable {provider : Provider} {rules : Rules} {assignments : Trio Assignment}

/-! ## Which messages ask for the rows -/

/-- The rows are asked for, or their headers alone, under one of their two addresses. -/
def Request.AsksForRows (request : Request) : Prop :=
  (request.method = "GET" ∨ request.method = "HEAD") ∧
    (request.path = "/football/bet/data" ∨ request.path = "/football/bet/data/")

theorem reads_iff : request.reads = true ↔ request.method = "GET" ∨ request.method = "HEAD" := by
  unfold Request.reads
  rw [Bool.or_eq_true, beq_iff_eq, beq_iff_eq]

theorem page?_eq_rows_iff : request.page? = some .rows ↔
    request.path = "/football/bet/data" ∨ request.path = "/football/bet/data/" := by
  unfold Request.page? page?
  split
  · rename_i rows
    exact iff_of_true rfl rows
  · rename_i other
    refine iff_of_false ?_ other
    split
    · intro h
      cases h
    · intro h
      cases h

theorem asksForRows_iff :
    request.AsksForRows ↔ request.reads = true ∧ request.page? = some .rows := by
  rw [reads_iff, page?_eq_rows_iff]
  exact Iff.rfl

/-- A query does not belong to the path. -/
theorem path_of_query (method query : String) {path : List Char}
    (plain : ∀ c ∈ path, c ≠ '?' ∧ c ≠ '#') :
    (Request.mk method (String.ofList ('/' :: path) ++ "?" ++ query)).path
      = String.ofList ('/' :: path) := by
  have keeps : ∀ c ∈ '/' :: path, (c != '?' && c != '#') = true := by
    intro c hc
    rcases List.mem_cons.mp hc with rfl | hc
    · decide
    · obtain ⟨question, hash⟩ := plain c hc
      rw [Bool.and_eq_true, bne_iff_ne, bne_iff_ne]
      exact ⟨question, hash⟩
  -- a path begins with a slash, so no host is in front of it
  have host (cs : List Char) : dropHost ('/' :: cs) = '/' :: cs := rfl
  have target : (String.ofList ('/' :: path) ++ "?" ++ query).toList
      = '/' :: (path ++ '?' :: query.toList) := by
    rw [String.toList_append, String.toList_append, String.toList_ofList]
    simp
  unfold Request.path
  rw [target, host]
  show String.ofList (List.takeWhile _ (('/' :: path) ++ '?' :: query.toList)) = _
  rw [List.takeWhile_append_of_pos keeps, List.takeWhile_cons_of_neg (by decide), List.append_nil]

theorem plan_of_asksForRows (h : request.AsksForRows) :
    request.plan = .settle (request.method == "HEAD") := by
  obtain ⟨reads, page⟩ := asksForRows_iff.mp h
  have method : request.method ≠ "OPTIONS" := by
    intro options
    rcases h.1 with get | head
    · exact absurd (get.symm.trans options) (by decide)
    · exact absurd (head.symm.trans options) (by decide)
  unfold Request.plan
  rw [if_neg method, page]
  dsimp only
  rw [if_pos reads]

theorem asksForRows_of_settle {headersOnly : Bool} (h : request.plan = .settle headersOnly) :
    request.AsksForRows :=
  asksForRows_iff.mpr (Request.plan_settles_iff.mp ⟨headersOnly, h⟩)

/-! ## How a message is handled -/

/-- How a message can be handled, in some order of the tasks: the questions that the provider was
asked, the end of the settlement if there is one, and what comes of the message. -/
inductive Handles (provider : Provider) (rules : Rules) (assignments : Trio Assignment)
    (message : Message) :
    List Feed.Query → Option (Except Failure (Trio Projection)) → Outcome → Prop where
  /-- It is answered at once. -/
  | atOnce {response : Response} (plan : message.request.plan = .answer response) :
    Handles provider rules assignments message [] none (.answered response)
  /-- A settlement comes to its end, and perhaps goes on asking afterwards. -/
  | settled {headersOnly : Bool} {c : Course} {x : Except Failure (Trio Projection)}
      (plan : message.request.plan = .settle headersOnly)
      (reached : Course.Reachable rules assignments (assignments.map (Reads.ofProvider provider))
        Course.allReturn c)
      (ended : c.ended = some x) :
    Handles provider rules assignments message (c.calls assignments) (some x)
      ((Plan.settle headersOnly).finish (Course.rows rules x))

/-- What a settlement that fails is answered with. -/
def unavailable : Response :=
  aboutRows 500 "text/plain; charset=utf-8" "Failed to create bet response"

variable {asked : List Feed.Query} {ends : Option (Except Failure (Trio Projection))}

theorem finish_settle (headersOnly : Bool) (run : Run (List SettlementRow)) :
    (∃ cause, (Plan.settle headersOnly).finish run = .broken cause) ∨
      ∃ status contentType body, (Plan.settle headersOnly).finish run
        = .answered (if headersOnly then (aboutRows status contentType body).withoutBody
          else aboutRows status contentType body) := by
  cases run with
  | done rows =>
    refine .inr ⟨200, "application/json", writeRows rows, ?_⟩
    cases headersOnly <;> rfl
  | failed first others =>
    refine .inr ⟨500, "text/plain; charset=utf-8", "Failed to create bet response", ?_⟩
    cases headersOnly <;> rfl
  | overflow cause =>
    refine .inl ⟨cause, ?_⟩
    cases headersOnly <;> rfl

/-- What is answered about the rows is not to be kept, and may be read from any origin. -/
theorem headers_of_finish {headersOnly : Bool} {run : Run (List SettlementRow)}
    (h : (Plan.settle headersOnly).finish run = .answered response) :
    openHeaders ⊆ response.headers ∧ freshHeader ∈ response.headers := by
  rcases finish_settle headersOnly run with ⟨cause, broken⟩ | ⟨status, contentType, body, answered⟩
  · rw [broken] at h
    cases h
  · rw [answered] at h
    cases h
    cases headersOnly <;> simp [Response.withoutBody, aboutRows]

/-- **A message is handled by asking the provider exactly if it asks for the rows**, and then the
settlement's questions are asked, none of them twice. -/
theorem Handles.asked_iff (h : Handles provider rules assignments message asked ends outcome) :
    (asked ≠ [] ↔ message.request.AsksForRows) ∧ (ends ≠ none ↔ message.request.AsksForRows) ∧
      asked.Subperm (Course.questions assignments) := by
  cases h with
  | atOnce plan =>
    have other : ¬ message.request.AsksForRows := by
      intro asks
      rw [plan_of_asksForRows asks] at plan
      cases plan
    exact ⟨iff_of_false (fun h => h rfl) other, iff_of_false (fun h => h rfl) other,
      List.nil_subperm⟩
  | @settled _ c x plan reached ended =>
    have asks := asksForRows_of_settle plan
    refine ⟨iff_of_true ?_ asks, iff_of_true (Option.some_ne_none x) asks,
      reached.calls_subperm⟩
    intro none
    unfold Course.calls at none
    rw [List.map_eq_nil_iff, List.reverse_eq_nil_iff] at none
    exact reached.asked_ne_nil ended none

/-- What the service does without regard to any order is what comes of some order. -/
theorem exists_handles_receive (provider : Provider) (rules : Rules)
    (assignments : Trio Assignment) (message : Message) :
    ∃ asked ends, Handles provider rules assignments message asked ends
      (receive provider rules assignments message) := by
  unfold receive serve
  cases plan : message.request.plan with
  | answer response => exact ⟨[], none, .atOnce plan⟩
  | settle headersOnly =>
    obtain ⟨x, agrees, same⟩ := exists_end_of_settle rules assignments
      (assignments.map (Reads.ofProvider provider))
    obtain ⟨c, reached, ended⟩ := (Course.endsWith_iff_parties fun _ => trivial).mpr agrees
    have finish : (Plan.settle headersOnly).finish (provider.settle rules assignments)
        = (Plan.settle headersOnly).finish (Course.rows rules x) := by
      cases headersOnly with
      | false => exact same
      | true =>
        unfold Plan.finish
        dsimp only
        rw [← same]
        rfl
    rw [finish]
    exact ⟨_, _, .settled plan reached ended⟩

/-- The plan is all that matters of a message. -/
theorem Handles.of_plan_eq {other : Message} (same : other.request.plan = message.request.plan)
    (h : Handles provider rules assignments message asked ends outcome) :
    Handles provider rules assignments other asked ends outcome := by
  cases h with
  | atOnce plan => exact .atOnce (same.trans plan)
  | settled plan reached ended => exact .settled (same.trans plan) reached ended

/-- **What can be seen of the service**, whatever the provider says, whatever the rules, in whatever
order the tasks go on, and whatever the message. Each message can be handled. The provider is asked
exactly if the method is GET or HEAD and the path is one of the two of the rows, and then for the
settlement's nine reads; both paths come to the same, with any query, headers and body. Whatever is
answered may be read from any origin; whatever is answered about the rows is not to be kept; and all
settlements that fail are answered alike. -/
theorem answers_of_messages (provider : Provider) (rules : Rules) (assignments : Trio Assignment)
    (message : Message) :
    (∃ asked ends, Handles provider rules assignments message asked ends
      (receive provider rules assignments message)) ∧
    (∀ asked ends outcome, Handles provider rules assignments message asked ends outcome →
      (asked ≠ [] ↔ message.request.AsksForRows) ∧ (ends ≠ none ↔ message.request.AsksForRows) ∧
      asked.Subperm (Course.questions assignments)) ∧
    (∀ c, message.request.AsksForRows →
      Course.Reachable rules assignments (assignments.map (Reads.ofProvider provider))
        Course.allReturn c →
      Course.Stuck rules assignments (assignments.map (Reads.ofProvider provider))
        Course.allReturn c →
      (c.calls assignments).Perm (Course.questions assignments)) ∧
    (∀ other : Message, message.request.AsksForRows → other.request.AsksForRows →
      other.request.method = message.request.method →
      receive provider rules assignments other = receive provider rules assignments message ∧
        ∀ asked ends outcome, Handles provider rules assignments other asked ends outcome ↔
          Handles provider rules assignments message asked ends outcome) ∧
    (∀ asked ends response,
      Handles provider rules assignments message asked ends (.answered response) →
      ("access-control-allow-origin", "*") ∈ response.headers ∧
      (message.request.AsksForRows →
        ("cache-control", "no-cache, no-store, must-revalidate") ∈ response.headers)) ∧
    ∀ asked f outcome,
      Handles provider rules assignments message asked (some (.error f)) outcome →
      (message.request.method = "GET" → outcome = .answered unavailable) ∧
      (message.request.method = "HEAD" → outcome = .answered unavailable.withoutBody) := by
  refine ⟨exists_handles_receive provider rules assignments message, ?_, ?_, ?_, ?_, ?_⟩
  · intro asked ends outcome h
    exact h.asked_iff
  · intro c _ reached stuck
    exact stuck.calls_perm reached
  · intro other asks asks' method
    have same : other.request.plan = message.request.plan := by
      rw [plan_of_asksForRows asks, plan_of_asksForRows asks', method]
    refine ⟨?_, ?_⟩
    · unfold receive serve
      rw [same]
    · intro asked ends outcome
      exact ⟨.of_plan_eq same.symm, .of_plan_eq same⟩
  · intro asked ends response h
    generalize answered : Outcome.answered response = outcome at h
    cases h with
    | atOnce plan =>
      cases answered
      refine ⟨openHeaders_subset_of_plan plan List.mem_cons_self, ?_⟩
      intro asks
      rw [plan_of_asksForRows asks] at plan
      cases plan
    | settled plan _ _ =>
      obtain ⟨opened, fresh⟩ := headers_of_finish answered.symm
      exact ⟨opened List.mem_cons_self, fun _ => fresh⟩
  · intro asked f outcome h
    cases h with
    | settled plan _ _ =>
      rw [plan_of_asksForRows (asksForRows_of_settle plan)] at plan
      cases plan
      constructor
      · intro get
        rw [get]
        rfl
      · intro head
        rw [head]
        rfl

/-- A page of another origin asks for the headers of the rows, with a query. -/
def headRows : Message :=
  ⟨⟨"HEAD", "/football/bet/data/?day=1"⟩, [("origin", "http://localhost:3000")], ""⟩

/-- The same, without a slash at the end and without all else. -/
def headRowsPlain : Message := ⟨⟨"HEAD", "/football/bet/data"⟩, [], ""⟩

theorem answers_of_headRows :
    headRows.request.AsksForRows ∧ headRowsPlain.request.AsksForRows ∧
      headRowsPlain.request.method = headRows.request.method ∧
      receive Course.failingProvider .standard Config.plain.assignments headRowsPlain
        = receive Course.failingProvider .standard Config.plain.assignments headRows ∧
      ∃ asked f, asked ≠ [] ∧
        Handles Course.failingProvider .standard Config.plain.assignments headRows asked
          (some (.error f)) (.answered unavailable.withoutBody) := by
  have asks : headRows.request.AsksForRows :=
    ⟨.inr rfl, .inr (@path_of_query "HEAD" "day=1" "football/bet/data/".toList (by simp))⟩
  have asksPlain : headRowsPlain.request.AsksForRows := ⟨.inr rfl, .inl (by decide)⟩
  obtain ⟨_, always, _, alike, _, fails⟩ :=
    answers_of_messages Course.failingProvider .standard Config.plain.assignments headRows
  have back : Course.allReturn (.first, .leagueEntry) := trivial
  obtain ⟨c, reached, ended⟩ : Course.EndsWith .standard Config.plain.assignments
      (Config.plain.assignments.map (Reads.ofProvider Course.failingProvider)) Course.allReturn
      (.error (.fetch .leagueEntry "Liverpool" (.unavailable "closed"))) :=
    Course.endsWith_of_failure? back rfl
  have handled := Handles.settled (plan_of_asksForRows asks) reached ended
  have closed := (fails _ _ _ handled).2 rfl
  rw [closed] at handled
  have asked := (always _ _ _ handled).1.mpr asks
  exact ⟨asks, asksPlain, rfl, (alike headRowsPlain asks asksPlain rfl).1, _, _, asked, handled⟩

end Service

end LeagueWager
