import LeagueWager.Config.Reader
import LeagueWager.Proofs.Ends
import LeagueWager.Service

/-!
# What the service makes of a settlement

Whoever reads the rows is answered with three of them, or told that there are none. This is so for
every failure of a read, of a task and of the building of a projection; they all come to the same
words. What nobody catches is a figure of the rows that does not fit: the rows are made after the
last task has ended, and the request ends with them.

* `contained_iff_of_agrees`: what a request for the rows ends with, for any end of the settlement;
* `contained_iff`: it is answered exactly if the figures of the rows fit.
-/

namespace LeagueWager.Service

/-- A request is answered: with three rows, or with the words for a failure; neither is to be
kept. -/
def Contained (outcome : Outcome) : Prop :=
  ∃ response, outcome = .answered response ∧ freshHeader ∈ response.headers ∧
    ((response.status = 200 ∧ ∃ rows : List SettlementRow, rows.length = 3 ∧
      response.body = (Json.Value.list (rows.map Records.writeSettlementRow)).render) ∨
    (response.status = 500 ∧ response.body = "Failed to create bet response"))

/-- Every party comes to its projection, but a figure of their rows does not fit. -/
def Breaks (rules : Rules) (assignments : Trio Assignment) (reads : Trio Reads)
    (cause : Overflow) : Prop :=
  ∃ ps : Trio Projection,
    (∀ seat, (reads.get seat).Builds rules (assignments.get seat) (ps.get seat)) ∧
      Settlement.all rules ps = .error cause

variable {rules : Rules} {assignments : Trio Assignment} {reads : Trio Reads} {request : Request}

/-! ## Requests for the rows -/

theorem plan_of_get (get : request.method = "GET") (page : request.page? = some .rows) :
    request.plan = .settle false := by
  have reads : request.reads = true := by
    unfold Request.reads
    rw [get]
    decide
  unfold Request.plan
  rw [if_neg (by rw [get]; decide), page, get]
  dsimp only
  rw [if_pos reads]
  rfl

theorem freshHeader_mem_aboutRows {status : Nat} {contentType body : String} :
    freshHeader ∈ (aboutRows status contentType body).headers := by
  simp [aboutRows]

theorem contained_done {rows : List SettlementRow} (three : rows.length = 3) :
    Contained (ofRun (.done rows)) :=
  ⟨_, rfl, freshHeader_mem_aboutRows, .inl ⟨rfl, rows, three, rfl⟩⟩

theorem contained_failed {first : Failure} {others : List Failure} :
    Contained (ofRun (.failed first others)) :=
  ⟨_, rfl, freshHeader_mem_aboutRows, .inr ⟨rfl, rfl⟩⟩

theorem not_contained_broken {cause : Overflow} : ¬ Contained (.broken cause) := by
  rintro ⟨response, h, _⟩
  cases h

/-! ## Ends of the settlement -/

/-- A settlement has three rows. -/
theorem length_of_all {ps : Trio Projection} {rows : List SettlementRow}
    (h : Settlement.all rules ps = .ok rows) : rows.length = 3 := by
  unfold Settlement.all at h
  obtain ⟨first, _, h⟩ := Checked.bind_eq_ok_iff.mp h
  obtain ⟨second, _, h⟩ := Checked.bind_eq_ok_iff.mp h
  obtain ⟨third, _, h⟩ := Checked.bind_eq_ok_iff.mp h
  cases h
  rw [(Settlement.ranked_perm _).length_eq]
  rfl

/-- An end of the settlement that agrees with its reads is answered, unless its rows break. -/
theorem ofRun_of_agrees {x : Except Failure (Trio Projection)}
    (h : Course.EndAgrees (Reads.parties rules assignments reads) x) :
    (Contained (ofRun (Course.rows rules x)) ∧ ∀ cause, ¬ Breaks rules assignments reads cause) ∨
      ∃ cause, ofRun (Course.rows rules x) = .broken cause ∧
        Breaks rules assignments reads cause := by
  cases x with
  | ok ps =>
    have builds := Course.parties_eq_all_iff.mp h
    unfold Course.rows Gathered.run
    dsimp only
    cases ha : Settlement.all rules ps with
    | ok rows =>
      refine .inl ⟨contained_done (length_of_all ha), ?_⟩
      rintro cause ⟨qs, builds', broken⟩
      rw [← Course.trio_unique builds builds', ha] at broken
      cases broken
    | error cause => exact .inr ⟨cause, rfl, ps, builds, ha⟩
  | error f =>
    refine .inl ⟨contained_failed, ?_⟩
    rintro cause ⟨ps, builds, _⟩
    obtain ⟨seat, reports⟩ := Course.mem_failures_parties_iff.mp h
    exact Reads.not_reports_of_builds (builds seat) reports

/-- The settlement of the gathered reads is answered like one of its ends. -/
theorem exists_end_of_settle (rules : Rules) (assignments : Trio Assignment) (reads : Trio Reads) :
    ∃ x, Course.EndAgrees (Reads.parties rules assignments reads) x ∧
      ofRun (Reads.settle rules assignments reads) = ofRun (Course.rows rules x) := by
  unfold Reads.settle
  cases Reads.parties rules assignments reads with
  | all value => exact ⟨.ok ⟨value.1, value.2.1, value.2.2⟩, rfl, rfl⟩
  | failed first others => exact ⟨.error first, List.mem_cons_self, rfl⟩

/-- An end of the settlement is answered exactly if its rows do not break. -/
theorem contained_iff_of_agrees {x : Except Failure (Trio Projection)}
    (h : Course.EndAgrees (Reads.parties rules assignments reads) x) :
    Contained (ofRun (Course.rows rules x)) ↔ ∀ cause, ¬ Breaks rules assignments reads cause := by
  rcases ofRun_of_agrees h with ⟨contained, whole⟩ | ⟨cause, broken, breaks⟩
  · exact iff_of_true contained whole
  · rw [broken]
    exact iff_of_false not_contained_broken fun whole => whole cause breaks

/-- **What a request for the rows ends with**, whatever the reads come to, whatever the rules, and
in whatever order the tasks go on. Each order comes to its end; and the request is answered, with
three rows or with the words for a failure, exactly if no figure of the rows of built projections
overflows. What the service does with the gathered reads is no different. -/
theorem contained_iff (rules : Rules) (assignments : Trio Assignment) (request : Request)
    (get : request.method = "GET") (page : request.page? = some .rows) :
    (∀ reads : Trio Reads,
      (WellFounded fun after before =>
        Course.Step rules assignments reads Course.allReturn before after) ∧
      (∀ c, Course.Reachable rules assignments reads Course.allReturn c →
        Course.Stuck rules assignments reads Course.allReturn c → ∃ x, c.ended = some x) ∧
      ∀ c x, Course.Reachable rules assignments reads Course.allReturn c → c.ended = some x →
        (Contained (request.plan.finish (Course.rows rules x)) ↔
          ∀ cause, ¬ Breaks rules assignments reads cause)) ∧
    ∀ provider, Contained (serve provider rules assignments request) ↔
      ∀ cause, ¬ Breaks rules assignments (assignments.map (Reads.ofProvider provider)) cause := by
  have plan := plan_of_get get page
  constructor
  · intro reads
    refine ⟨Course.wellFounded_step _ _ _ _, ?_, ?_⟩
    · intro c _ stuck
      exact Option.ne_none_iff_exists'.mp (stuck.ended_ne_none fun _ => trivial)
    · intro c x h hx
      rw [plan]
      exact contained_iff_of_agrees (h.ended_agrees x hx)
  · intro provider
    obtain ⟨x, agrees, same⟩ := exists_end_of_settle rules assignments
      (assignments.map (Reads.ofProvider provider))
    unfold serve
    rw [plan]
    show Contained (ofRun (Reads.settle rules assignments _)) ↔ _
    rw [same]
    exact contained_iff_of_agrees agrees

/-! ## A stake that is too large -/

/-- A request for the rows. -/
def getRows : Request := ⟨"GET", "/football/bet/data"⟩

/-- Three parties and a stake that is too large. -/
def steep : Config where
  port := 8080
  rules := ⟨38, 100000000⟩
  provider := ⟨.feed, "https://api.football-data.org/v4", "PL", none, 3, 15, none⟩
  parties := ⟨⟨"Liverpool", "Steve"⟩, ⟨"Chelsea", "Tim"⟩, ⟨"Tottenham", "Thommo"⟩⟩

/-- A row of the table with the points `n`. -/
def rowWith (team : String) (n : Int32) : Standing :=
  ⟨1, ⟨0, team, team, ""⟩, 20, 0, 0, 0, n, 0, 0, 0⟩

/-- Half of a season: no fixture is left between the teams, and none is played. -/
def halfway : Provider where
  leagueEntry team :=
    .value (rowWith team (if team = "Liverpool" then 61 else if team = "Chelsea" then 33 else 30))
  headToHead _ _ := .value []
  latestMatch team := .value {
    id := 0
    kickOff := ⟨0, 0⟩
    status := .finished
    matchday := none
    homeTeam := ⟨0, team, team, ""⟩
    awayTeam := ⟨0, "Everton", "Everton", ""⟩
    score := .unknown }

theorem contained_halfway :
    getRows.method = "GET" ∧ getRows.page? = some .rows ∧
      (Contained (serve halfway .standard steep.assignments getRows) ↔ ∀ cause,
        ¬ Breaks .standard steep.assignments (steep.assignments.map (Reads.ofProvider halfway))
          cause) :=
  ⟨rfl, rfl, (contained_iff _ _ getRows rfl rfl).2 halfway⟩

/-- A text for it. -/
def steepText : String :=
  "server.port = 8080\n" ++ "league.stake_per_point = 100000000\n" ++
  "provider.kind = \"football_data\"\n" ++
  "[[wager]]\nteam = \"Liverpool\"\nplayer = \"Steve\"\n" ++
  "[[wager]]\nteam = \"Chelsea\"\nplayer = \"Tim\"\n" ++
  "[[wager]]\nteam = \"Tottenham\"\nplayer = \"Thommo\"\n"

/-- A stake that is accepted can break the rows, and with them the request. -/
theorem not_contained_steep :
    ∃ config, Config.ofText steepText = .ok config ∧
      ¬ Contained (serve halfway config.rules config.assignments getRows) := by
  have accepted : (Config.ofText steepText).toOption = some steep := by decide +kernel
  have broken : serve halfway steep.rules steep.assignments getRows = .broken .multiply := by
    decide +kernel
  refine ⟨steep, ?_, ?_⟩
  · cases hc : Config.ofText steepText with
    | error e =>
      rw [hc] at accepted
      cases accepted
    | ok config =>
      rw [hc] at accepted
      exact congrArg Except.ok (Option.some.inj accepted)
  · rw [broken]
    exact not_contained_broken

end LeagueWager.Service
