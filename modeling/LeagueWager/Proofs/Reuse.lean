import LeagueWager.Feed.History
import Mathlib.Data.List.Nodup

/-!
# What is fetched, and what is used again

The history of a resource has one shape in every order of its reads. If what was fetched may be used
again, the reads fetch one after the other until a fetch succeeds; each is answered by what its own
fetch brings, and every later one by what that first success brought. If nothing may be used again,
each read fetches, and is answered by its own fetch.

* `Orderly.of_lawful`: every read starts, fetches and is answered once at most;
* `exists_later`, `exists_tries`: fetches that fail, and the one that ends them;
* `Reuses.of_lawful`, `Refetches.of_lawful`: when a read fetches, and what it is answered with;
* `reads_of_feed`: both resources of a feed, under any number of reads.
-/

namespace LeagueWager.Feed

namespace Shelf

variable {ι α τ : Type}

/-- What the first of these that did not fail has. -/
def firstSuccess (outcomes : List (ι × Except ReadError α)) : Option α :=
  outcomes.findSome? fun x => x.2.toOption

theorem firstSuccess_eq_none_iff {outcomes : List (ι × Except ReadError α)} :
    firstSuccess outcomes = none ↔ ∀ x ∈ outcomes, Failed x.2 := by
  unfold firstSuccess
  rw [List.findSome?_eq_none_iff]
  refine forall₂_congr fun x _ => ?_
  unfold Failed
  cases x.2 with
  | ok a => simp [Except.toOption]
  | error e => simp [Except.toOption]

/-! ## One event more -/

section

variable (events : List (Event ι α))

theorem starters_snoc (event : Event ι α) :
    starters (events ++ [event]) = starters events ++ event.starter?.toList := by
  unfold starters
  rw [List.filterMap_append]
  cases event <;> rfl

theorem fetched_snoc (event : Event ι α) :
    fetched (events ++ [event]) = fetched events ++ event.fetched?.toList := by
  unfold fetched
  rw [List.filterMap_append]
  cases event <;> rfl

theorem told_snoc (event : Event ι α) :
    told (events ++ [event]) = told events ++ event.told?.toList := by
  unfold told
  rw [List.filterMap_append]
  cases event <;> rfl

end

variable {keeps : Bool} {mine : ι → Prop} {fetch : τ → Except ReadError α × τ}
variable {events : List (Event ι α)}

/-- The answers that a resource has on record are those of its history. -/
theorem answers_replay (h : Lawful keeps mine fetch events) :
    (replay events).answers = told events := by
  induction h with
  | nil => rfl
  | snoc _ next ih =>
    rw [replay_append, told_snoc, ← ih]
    cases next with
    | used _ _ => rfl
    | began _ _ => exact (List.append_nil _).symm
    | ended _ => rfl

/-- What a resource has on record of its fetches is what its history has. -/
theorem brought_replay (h : Lawful keeps mine fetch events) :
    (replay events).brought = (fetched events).map Prod.snd := by
  induction h with
  | nil => rfl
  | snoc _ next ih =>
    rw [replay_append, fetched_snoc, List.map_append, ← ih]
    cases next with
    | used _ _ => exact (List.append_nil _).symm
    | began _ _ => exact (List.append_nil _).symm
    | ended _ => rfl

theorem answered_replay (h : Lawful keeps mine fetch events) :
    (replay events).answered = (told events).map Prod.fst := by
  unfold answered
  rw [answers_replay h]

/-! ## Every history -/

/-- Each fetch is some read's own, and each read is answered once. -/
structure Orderly (mine : ι → Prop) (events : List (Event ι α)) : Prop where
  /-- The fetches that were started are those that have ended, and the one that is under way. -/
  starters_eq : starters events = (fetched events).map Prod.fst ++ (replay events).holder.toList
  /-- No read is answered twice, nor while its fetch is under way. -/
  nodup : ((told events).map Prod.fst ++ (replay events).holder.toList).Nodup
  own : ∀ id ∈ (told events).map Prod.fst ++ (replay events).holder.toList, mine id
  /-- What a fetch brings is the answer to the read that started it. -/
  sublist : (fetched events).Sublist (told events)

theorem Orderly.of_lawful (h : Lawful keeps mine fetch events) : Orderly mine events := by
  induction h with
  | nil => exact ⟨rfl, List.nodup_nil, by simp [told, replay, empty], List.Sublist.refl _⟩
  | snoc before next ih =>
    obtain ⟨starters_eq, nodup, own, sublist⟩ := ih
    have answered := answered_replay before
    cases next with
    | @used id a turn found =>
      have free := turn.free
      have new : id ∉ (told _).map Prod.fst := answered ▸ turn.new
      rw [free] at starters_eq nodup own
      simp only [Option.toList, List.append_nil] at starters_eq nodup own
      refine ⟨?_, ?_, ?_, ?_⟩ <;>
        simp only [starters_snoc, fetched_snoc, told_snoc, replay_append, after, use, free,
          Event.starter?, Event.fetched?, Event.told?, Option.toList, List.append_nil,
          List.map_append, List.map_cons, List.map_nil]
      · exact starters_eq
      · exact nodup_answered_append nodup new
      · exact own_append own turn.own
      · exact sublist.trans (List.sublist_append_left _ _)
    | @began id turn missing =>
      have free := turn.free
      have new : id ∉ (told _).map Prod.fst := answered ▸ turn.new
      rw [free] at starters_eq nodup own
      simp only [Option.toList, List.append_nil] at starters_eq nodup own
      refine ⟨?_, ?_, ?_, ?_⟩ <;>
        simp only [starters_snoc, fetched_snoc, told_snoc, replay_append, after, hold,
          Event.starter?, Event.fetched?, Event.told?, Option.toList, List.append_nil]
      · rw [starters_eq]
      · exact nodup_answered_append nodup new
      · exact own_append own turn.own
      · exact sublist
    | @ended id holds =>
      rw [holds] at starters_eq nodup own
      simp only [Option.toList] at starters_eq nodup own
      refine ⟨?_, ?_, ?_, ?_⟩ <;>
        simp only [starters_snoc, fetched_snoc, told_snoc, replay_append, after, store,
          Event.starter?, Event.fetched?, Event.told?, Option.toList, List.append_nil,
          List.map_append, List.map_cons, List.map_nil]
      · exact starters_eq
      · exact nodup
      · exact own
      · exact sublist.append (List.Sublist.refl _)

section

variable [DecidableEq ι] (h : Orderly mine events)

include h

/-- A read whose fetch has ended has started that one and no other. -/
theorem Orderly.count_of_fetched {id : ι} {x : Except ReadError α} (hx : (id, x) ∈ fetched events) :
    (starters events).count id = 1 := by
  have nodup : (starters events).Nodup := by
    rw [h.starters_eq]
    exact h.nodup.sublist ((h.sublist.map Prod.fst).append (List.Sublist.refl _))
  refine List.count_eq_one_of_mem nodup ?_
  rw [h.starters_eq]
  exact List.mem_append_left _ (List.mem_map_of_mem hx)

/-- A read that is answered by something else has started none. -/
theorem Orderly.count_of_not_fetched {id : ι} {x : Except ReadError α}
    {later : List (ι × Except ReadError α)}
    (split : told events = fetched events ++ later) (hx : (id, x) ∈ later) :
    (starters events).count id = 0 := by
  have nodup := h.nodup
  rw [split, List.map_append, List.append_assoc, List.nodup_append] at nodup
  obtain ⟨_, nodup, apart⟩ := nodup
  have hid : id ∈ later.map Prod.fst := List.mem_map_of_mem hx
  rw [h.starters_eq, List.count_eq_zero, List.mem_append, not_or]
  constructor
  · intro fetched
    exact apart id fetched id (List.mem_append_left _ hid) rfl
  · intro holder
    exact (List.nodup_append.mp nodup).2.2 id hid id holder rfl

end

/-! ## What was fetched may be used again -/

/-- A resource that is used again: the reads fetch until a fetch succeeds, and no longer. -/
structure Reuses [DecidableEq ι] (events : List (Event ι α)) : Prop where
  /-- A read with no success before it starts one fetch, and is answered by what that brings. -/
  first : ∀ earlier id outcome rest, told events = earlier ++ (id, outcome) :: rest →
    firstSuccess earlier = none →
      (starters events).count id = 1 ∧ (id, outcome) ∈ fetched events
  /-- A read after that starts none, and is answered by what the first success brought. -/
  later : ∀ earlier id outcome rest a, told events = earlier ++ (id, outcome) :: rest →
    firstSuccess earlier = some a → (starters events).count id = 0 ∧ outcome = .ok a
  /-- All reads that succeed are answered with one and the same. -/
  same : ∀ x ∈ told events, ∀ y ∈ told events, ∀ a b, x.2 = .ok a → y.2 = .ok b → a = b
  /-- What the first success brought is kept; nothing is kept of a fetch that fails. -/
  kept : (replay events).kept = firstSuccess (fetched events)

theorem Sound.of_lawful (h : Lawful true mine fetch events) : Sound mine (replay events) := by
  induction h with
  | nil => exact sound_empty
  | snoc _ next ih =>
    rw [replay_append]
    exact sound_step ih (step_iff.mpr ⟨_, next, rfl⟩)

/-- The reads that did not fetch were all answered with what is kept. -/
theorem exists_later (h : Lawful true mine fetch events) :
    ∃ later, told events = fetched events ++ later ∧
      ∀ x ∈ later, ∃ a, (replay events).kept = some a ∧ x.2 = .ok a := by
  induction h with
  | nil => exact ⟨[], rfl, by simp⟩
  | @snoc events _ _ _ before next ih =>
    obtain ⟨later, split, kept⟩ := ih
    have sound := Sound.of_lawful before
    cases next with
    | @used id a turn found =>
      refine ⟨later ++ [(id, .ok a)], ?_, ?_⟩
      · rw [told_snoc, fetched_snoc, split]
        simp [Event.told?, Event.fetched?]
      · rw [replay_append]
        intro x hx
        rcases List.mem_append.mp hx with hx | hx
        · exact kept x hx
        · rw [List.mem_singleton.mp hx]
          exact ⟨a, found, rfl⟩
    | began turn missing =>
      refine ⟨later, ?_, ?_⟩
      · rw [told_snoc, fetched_snoc, split]
        simp [Event.told?, Event.fetched?]
      · rw [replay_append]
        exact kept
    | @ended id holds =>
      -- nothing was kept when the fetch was started, so nobody has used it
      have none : later = [] := by
        cases later with
        | nil => rfl
        | cons x rest =>
          obtain ⟨a, ha, _⟩ := kept x List.mem_cons_self
          rw [(sound.holds id holds).1] at ha
          cases ha
      refine ⟨[], ?_, by simp⟩
      rw [told_snoc, fetched_snoc, split, none]
      simp [Event.told?, Event.fetched?]

/-- Only the last fetch can have succeeded, and it has if something is kept. -/
theorem exists_tries (h : Lawful true mine fetch events) :
    ∃ tries last, fetched events = tries ++ last ∧ (∀ x ∈ tries, Failed x.2) ∧
      last.map Prod.snd = (replay events).kept.toList.map .ok := by
  obtain ⟨before, failed, hb⟩ := (Sound.of_lawful h).tries
  rw [brought_replay h] at hb
  obtain ⟨tries, last, split, rfl, hlast⟩ := List.map_eq_append_iff.mp hb
  exact ⟨tries, last, split, fun x hx => failed _ (List.mem_map_of_mem hx), hlast⟩

theorem firstSuccess_of_failed {outcomes more : List (ι × Except ReadError α)}
    (failed : ∀ x ∈ outcomes, Failed x.2) :
    firstSuccess (outcomes ++ more) = firstSuccess more := by
  have none := firstSuccess_eq_none_iff.mpr failed
  unfold firstSuccess at none ⊢
  rw [List.findSome?_append, none, Option.none_or]

theorem firstSuccess_eq_kept (h : Lawful true mine fetch events) :
    firstSuccess (fetched events) = (replay events).kept := by
  obtain ⟨tries, last, split, failed, hlast⟩ := exists_tries h
  rw [split, firstSuccess_of_failed failed]
  cases hk : (replay events).kept with
  | none =>
    rw [hk] at hlast
    rw [List.map_eq_nil_iff.mp hlast]
    rfl
  | some a =>
    rw [hk] at hlast
    obtain ⟨x, rfl, hx⟩ := List.map_eq_singleton_iff.mp hlast
    simp [firstSuccess, hx, Except.toOption]

/-- An answer with no success before it is that of a fetch; any other comes from the first success,
behind all fetches. -/
theorem fetched_or_later (h : Lawful true mine fetch events)
    {earlier rest : List (ι × Except ReadError α)} {x : ι × Except ReadError α}
    (split : told events = earlier ++ x :: rest) :
    (firstSuccess earlier = none ∧ x ∈ fetched events) ∨
      ∃ a later, firstSuccess earlier = some a ∧ told events = fetched events ++ later ∧
        x ∈ later ∧ x.2 = .ok a := by
  obtain ⟨later, told, used⟩ := exists_later h
  obtain ⟨tries, last, fetched, failed, hlast⟩ := exists_tries h
  cases hk : (replay events).kept with
  | none =>
    -- all fetches failed, and there is nothing else
    have noLast : last = [] := by
      rw [hk] at hlast
      exact List.map_eq_nil_iff.mp hlast
    have noLater : later = [] := by
      refine List.eq_nil_iff_forall_not_mem.mpr fun y hy => ?_
      obtain ⟨a, ha, _⟩ := used y hy
      rw [hk] at ha
      cases ha
    rw [noLast, List.append_nil] at fetched
    rw [noLater, List.append_nil] at told
    refine .inl ⟨firstSuccess_eq_none_iff.mpr fun y hy => failed y ?_, ?_⟩
    · rw [← fetched, ← told, split]
      exact List.mem_append_left _ hy
    · rw [← told, split]
      exact List.mem_append_right _ List.mem_cons_self
  | some a =>
    obtain ⟨w, rfl, hw⟩ : ∃ w, last = [w] ∧ w.2 = .ok a := by
      rw [hk] at hlast
      exact List.map_eq_singleton_iff.mp hlast
    have whole : earlier ++ x :: rest = tries ++ w :: later := by
      rw [← split, told, fetched, List.append_assoc]
      rfl
    -- `w` is the success: `x` comes before it, or is it, or comes behind it
    rcases List.append_eq_append_iff.mp whole with ⟨between, htries, hx⟩ | ⟨between, hearlier, hw'⟩
    · refine .inl ⟨firstSuccess_eq_none_iff.mpr fun y hy => failed y ?_, ?_⟩
      · rw [htries]
        exact List.mem_append_left _ hy
      · rw [fetched, htries]
        cases between with
        | nil =>
          cases hx
          exact List.mem_append_right _ List.mem_cons_self
        | cons y ys =>
          cases hx
          exact List.mem_append_left _ (List.mem_append_right _ List.mem_cons_self)
    · cases between with
      | nil =>
        cases hw'
        rw [List.append_nil] at hearlier
        refine .inl ⟨firstSuccess_eq_none_iff.mpr (hearlier ▸ failed), ?_⟩
        rw [fetched]
        exact List.mem_append_right _ List.mem_cons_self
      | cons y ys =>
        cases hw'
        have mem : x ∈ ys ++ x :: rest := List.mem_append_right _ List.mem_cons_self
        obtain ⟨b, hb, hx⟩ := used x mem
        obtain rfl : a = b := Option.some.inj (hk.symm.trans hb)
        refine .inr ⟨a, _, ?_, told, mem, hx⟩
        rw [hearlier, firstSuccess_of_failed failed]
        simp [firstSuccess, hw, Except.toOption]

/-- Whatever succeeds is what is kept. -/
theorem kept_of_told (h : Lawful true mine fetch events) {x : ι × Except ReadError α}
    (hx : x ∈ told events) {a : α} (ok : x.2 = .ok a) : (replay events).kept = some a := by
  obtain ⟨later, told, used⟩ := exists_later h
  obtain ⟨tries, last, fetched, failed, hlast⟩ := exists_tries h
  rw [told, fetched, List.append_assoc, List.mem_append, List.mem_append] at hx
  rcases hx with hx | hx | hx
  · obtain ⟨e, he⟩ := failed x hx
    rw [ok] at he
    cases he
  · have mem : x.2 ∈ (replay events).kept.toList.map Except.ok := by
      rw [← hlast]
      exact List.mem_map_of_mem hx
    rw [ok] at mem
    simpa using mem
  · obtain ⟨b, hb, hx⟩ := used x hx
    rw [ok] at hx
    cases hx
    exact hb

/-- **Reads fetch until one succeeds, and no longer.** -/
theorem Reuses.of_lawful [DecidableEq ι] (h : Lawful true mine fetch events) : Reuses events where
  first := by
    intro earlier id outcome rest split none
    rcases fetched_or_later h split with ⟨_, mem⟩ | ⟨a, _, some, _⟩
    · exact ⟨(Orderly.of_lawful h).count_of_fetched mem, mem⟩
    · rw [none] at some
      cases some
  later := by
    intro earlier id outcome rest a split some
    rcases fetched_or_later h split with ⟨none, _⟩ | ⟨b, later, hb, told, mem, ok⟩
    · rw [none] at some
      cases some
    · obtain rfl : a = b := Option.some.inj (some.symm.trans hb)
      exact ⟨(Orderly.of_lawful h).count_of_not_fetched told mem, ok⟩
  same := by
    intro x hx y hy a b ha hb
    exact Option.some.inj ((kept_of_told h hx ha).symm.trans (kept_of_told h hy hb))
  kept := (firstSuccess_eq_kept h).symm

/-! ## Nothing may be used again -/

/-- A resource that is never used again: every read starts one fetch, and is answered by what that
brings. -/
def Refetches [DecidableEq ι] (events : List (Event ι α)) : Prop :=
  ∀ id outcome, (id, outcome) ∈ told events →
    (starters events).count id = 1 ∧ (id, outcome) ∈ fetched events

theorem told_eq_fetched (h : Lawful false mine fetch events) :
    told events = fetched events := by
  induction h with
  | nil => rfl
  | snoc _ next ih =>
    rw [told_snoc, fetched_snoc, ih]
    cases next with
    | used _ found => cases found
    | began _ _ => rfl
    | ended _ => rfl

theorem Refetches.of_lawful [DecidableEq ι] (h : Lawful false mine fetch events) :
    Refetches events := by
  intro id outcome hx
  rw [told_eq_fetched h] at hx
  exact ⟨(Orderly.of_lawful h).count_of_fetched hx, hx⟩

end Shelf

namespace Traffic

open Feed.Shelf

variable {σ ι : Type} {feed : Feed} {server : Http.Server σ} {wants : ι → Resource} {state : σ}
variable {t : Traffic σ ι} {history : History ι}

/-! ## Reads go on -/

/-- A fetch that is under way can end, and its read is answered. -/
theorem Recorded.exists_ended (h : Recorded feed server wants state t history)
    {resource : Resource} {id : ι} (holds : (t.shelf resource).holder = some id) :
    ∃ t' history', Recorded feed server wants state t' history' ∧
      told (history'.events resource) =
        told (history.events resource) ++ [(id, (feed.fetch server resource t.line).1)] := by
  refine ⟨_, _, h.tail (.ended holds), ?_⟩
  rw [History.events_add, told_snoc]
  rfl

theorem read_of_used {resource : Resource} {a : resource.Held}
    (found : usable feed.keeps (t.shelf resource).kept = some a) (id : ι) :
    feed.read server resource t.state =
      (.ok a, (t.put resource ((t.shelf resource).use id a) t.line).state) := by
  cases resource with
  | tables =>
    show feed.readRows server t.state = _
    unfold readRows reuse
    rw [show usable feed.keeps t.state.rows = some a from found]
    rfl
  | fixtures =>
    show feed.readFixtures server t.state = _
    unfold readFixtures reuse
    rw [show usable feed.keeps t.state.fixtures = some a from found]
    rfl

theorem read_of_fetched {resource : Resource}
    (missing : usable feed.keeps (t.shelf resource).kept = none) (id : ι) :
    feed.read server resource t.state =
      ((feed.fetch server resource t.line).1,
        ((t.put resource ((t.shelf resource).hold id) t.line).put resource
          (((t.shelf resource).hold id).store id (feed.fetch server resource t.line).1)
          (feed.fetch server resource t.line).2).state) := by
  cases resource with
  | tables =>
    show feed.readRows server t.state = _
    unfold readRows reuse
    rw [show usable feed.keeps t.state.rows = none from missing,
      show feed.fetchRows server t.state.line = feed.fetch server .tables t.line from rfl]
    generalize feed.fetch server .tables t.line = fetched
    rfl
  | fixtures =>
    show feed.readFixtures server t.state = _
    unfold readFixtures reuse
    rw [show usable feed.keeps t.state.fixtures = none from missing,
      show feed.fetchFixtures server t.state.line = feed.fetch server .fixtures t.line from rfl]
    generalize feed.fetch server .fixtures t.line = fetched
    rfl

/-- **A read whose lock is free can go on to its end**, and is answered as it would be alone. -/
theorem Recorded.exists_told (h : Recorded feed server wants state t history)
    {resource : Resource} {id : ι} (own : wants id = resource)
    (free : (t.shelf resource).holder = none) (new : id ∉ (t.shelf resource).answered) :
    ∃ t' history', Recorded feed server wants state t' history' ∧
      told (history'.events resource) =
        told (history.events resource) ++ [(id, (feed.read server resource t.state).1)] ∧
      (t'.shelf resource).holder = none ∧ t'.state = (feed.read server resource t.state).2 := by
  have turn : Turn (fun id => wants id = resource) id (t.shelf resource) := ⟨free, own, new⟩
  cases hu : usable feed.keeps (t.shelf resource).kept with
  | some a =>
    rw [read_of_used hu id]
    refine ⟨_, _, h.tail (.used turn hu), ?_, ?_, rfl⟩
    · rw [History.events_add, told_snoc]
      rfl
    · rw [shelf_put]
      exact free
  | none =>
    rw [read_of_fetched hu id]
    have began := h.tail (.began turn hu)
    have holds : ((t.put resource ((t.shelf resource).hold id) t.line).shelf resource).holder
        = some id := by
      rw [shelf_put]
      rfl
    have ended := began.tail (.ended holds)
    refine ⟨_, _, ended, ?_, ?_, ?_⟩
    · rw [History.events_add, History.events_add, told_snoc, told_snoc]
      simp only [after, line_put, Event.told?, Option.toList, List.append_nil]
    · rw [shelf_put]
      rfl
    · simp only [after, shelf_put, line_put]

/-- **What the reads of a feed fetch and what they are answered with**, whatever the server answers,
for any number of reads and in any order in which they get the locks. Each order has a history; and
in every history the state of a resource depends on its own events alone. If what was fetched may
be used again, each read up to the first success fetches once and is answered by its own fetch, and
each later read fetches nothing and is answered by what that success brought; if not, each read
fetches once and is answered by its own fetch. And no read is stuck: the fetch that is under way can
end, and a read that finds its lock free can go on until it is answered, as it would be alone. -/
theorem reads_of_feed [DecidableEq ι] (feed : Feed) (server : Http.Server σ) (state : σ)
    (query : ι → Query) :
    (∀ t, Reachable feed server (fun id => (query id).resource) state t →
      ∃ history, Recorded feed server (fun id => (query id).resource) state t history) ∧
    ∀ t history, Recorded feed server (fun id => (query id).resource) state t history →
      (∀ resource,
        t.shelf resource = replay (history.events resource) ∧
        (feed.keeps = true → Reuses (history.events resource)) ∧
        (feed.keeps = false → Refetches (history.events resource)) ∧
        ∀ id, (t.shelf resource).holder = some id →
          ∃ t' history', Recorded feed server (fun id => (query id).resource) state t' history' ∧
            told (history'.events resource) =
              told (history.events resource) ++ [(id, (feed.fetch server resource t.line).1)]) ∧
      ∀ id now, (t.shelf (query id).resource).holder = none →
        id ∉ (t.shelf (query id).resource).answered →
        ∃ t' history' outcome,
          Recorded feed server (fun id => (query id).resource) state t' history' ∧
          told (history'.events (query id).resource) =
            told (history.events (query id).resource) ++ [(id, outcome)] ∧
          feed.ask server now (query id) t.state = ((query id).answer now outcome, t'.state) := by
  refine ⟨fun t => reachable_iff.mp, fun t history h => ⟨fun resource => ?_, ?_⟩⟩
  · have lawful := h.lawful resource
    refine ⟨h.shelf_eq resource, fun keeps => ?_, fun keeps => ?_, fun id => h.exists_ended⟩
    · rw [keeps] at lawful
      exact .of_lawful lawful
    · rw [keeps] at lawful
      exact .of_lawful lawful
  · intro id now free new
    obtain ⟨t', history', after, told, _, left⟩ := h.exists_told rfl free new
    refine ⟨t', history', _, after, told, ?_⟩
    rw [answer_ask, left]

/-! ## A server that is slow to start -/

/-- A feed that keeps what was fetched. -/
def nearFeed : Feed := ⟨"http://a", "PL", none, true⟩

/-- The first request fails, and every later one finds a competition without fixtures. -/
def lateServer : Http.Server Nat where
  toReading := .plain
  answer n _ :=
    (.reply (if n = 0 then ⟨500, none, none, .empty, true⟩
      else ⟨200, none, none, "\x7b\"matches\": []\x7d".toUTF8, true⟩), n + 1)

/-- All readers ask for the fixtures between two teams. -/
def askMeetings (_ : Nat) : Query := .headToHead "Chelsea" "Tottenham"

/-- The feed after so many reads of the fixtures. -/
def afterReads : Nat → State Nat
  | 0 => .fresh 0
  | n + 1 => (nearFeed.read lateServer .fixtures (afterReads n)).2

/-- The answer to a read of the fixtures that comes after so many others. -/
def answerAfter (n : Nat) : Except ReadError (List Fixture) :=
  (nearFeed.read lateServer .fixtures (afterReads n)).1

/-- One read after the other. -/
theorem exists_reads (n : Nat) :
    ∃ t history, Recorded nearFeed lateServer (fun id => (askMeetings id).resource) 0 t history ∧
      t.state = afterReads n ∧ (t.shelf .fixtures).holder = none ∧
      told (history.events .fixtures) = (List.range n).map fun id => (id, answerAfter id) := by
  induction n with
  | zero => exact ⟨_, _, .start, rfl, rfl, rfl⟩
  | succ n ih =>
    obtain ⟨t, history, h, state, free, told⟩ := ih
    have own : (askMeetings n).resource = .fixtures := rfl
    have new : n ∉ (t.shelf .fixtures).answered := by
      rw [h.shelf_eq .fixtures, answered_replay (h.lawful .fixtures), told]
      simp
    obtain ⟨t', history', h', told', free', state'⟩ := h.exists_told own free new
    refine ⟨t', history', h', ?_, free', ?_⟩
    · rw [state', state, afterReads]
    · rw [told', told, state, List.range_succ, List.map_append]
      rfl

theorem answerAfter_zero : (answerAfter 0).toOption = none := by decide +kernel

theorem answerAfter_one : (answerAfter 1).toOption = some [] := by decide +kernel

/-- The first reader finds the server down; the second fetches again, and the third does not. -/
theorem reads_of_nearFeed :
    ∃ t history, Recorded nearFeed lateServer (fun id => (askMeetings id).resource) 0 t history ∧
      (starters (history.events .fixtures)).count 0 = 1 ∧
      (starters (history.events .fixtures)).count 1 = 1 ∧
      (starters (history.events .fixtures)).count 2 = 0 ∧
      (2, .ok []) ∈ told (history.events .fixtures) := by
  obtain ⟨t, history, h, _, _, told⟩ := exists_reads 3
  obtain ⟨_, reuses, _⟩ :=
    ((reads_of_feed nearFeed lateServer 0 askMeetings).2 t history h).1 .fixtures
  have reuses := reuses rfl
  have told : Shelf.told (history.events .fixtures)
      = [(0, answerAfter 0), (1, answerAfter 1), (2, answerAfter 2)] := told
  have zero := reuses.first [] 0 _ _ told rfl
  have one := reuses.first [(0, answerAfter 0)] 1 _ [(2, answerAfter 2)] told (by
    simp [firstSuccess, answerAfter_zero])
  obtain ⟨two, ok⟩ := reuses.later [(0, answerAfter 0), (1, answerAfter 1)] 2 _ [] [] told (by
    simp [firstSuccess, answerAfter_zero, answerAfter_one])
  refine ⟨t, history, h, zero.1, one.1, two, ?_⟩
  rw [told, ← ok]
  simp

end Traffic

end LeagueWager.Feed
