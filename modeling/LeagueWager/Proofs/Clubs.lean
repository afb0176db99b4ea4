import LeagueWager.Config.Reader
import LeagueWager.Team
import Mathlib.Data.List.Nodup

/-!
# One club, two names

A club answers to its short name and to the name it is shown under. A configuration is checked for
names that are the same text, not for names of the same club: so two parties can hold one club,
each under another of its names, and in no other way.

* `exists_answersTo_both_iff`: which two names a club can have;
* `held_once_iff`: when no club is held twice;
* `not_held_once_doubled`: a configuration that is accepted, and a club that is held twice.
-/

namespace LeagueWager

/-- A name is shown as it is, unless the list of display names has another for it. -/
theorem displayName_eq_or_mem (name : String) :
    displayName name = name ∨ (name, displayName name) ∈ displayNames := by
  unfold displayName
  cases h : displayNames.lookup name with
  | none => exact .inl rfl
  | some shown =>
    obtain ⟨before, after, hlist, _⟩ := List.lookup_eq_some_iff.mp h
    refine .inr ?_
    rw [hlist]
    exact List.mem_append_right _ List.mem_cons_self

theorem displayName_of_mem {short shown : String} (h : (short, shown) ∈ displayNames) :
    displayName short = shown := by
  have all : ∀ pair ∈ displayNames, displayName pair.1 = pair.2 := by decide
  exact all _ h

/-- **A club can have two names exactly if they are the same, or the list shows one as the
other.** -/
theorem exists_answersTo_both_iff {a b : String} :
    (∃ team : Team, team.answersTo a = true ∧ team.answersTo b = true) ↔
      a = b ∨ (a, b) ∈ displayNames ∨ (b, a) ∈ displayNames := by
  constructor
  · rintro ⟨team, ha, hb⟩
    rw [Team.answersTo_iff] at ha hb
    have listed := displayName_eq_or_mem team.shortName
    -- each name is the club's short name or the name it is shown under
    rcases ha with rfl | rfl <;> rcases hb with rfl | rfl
    · exact .inl rfl
    · rcases listed with same | listed
      · exact .inl same.symm
      · exact .inr (.inl listed)
    · rcases listed with same | listed
      · exact .inl same
      · exact .inr (.inr listed)
    · exact .inl rfl
  · rintro (rfl | listed | listed)
    · exact ⟨⟨0, "", a, ""⟩, Team.answersTo_shortName _, Team.answersTo_shortName _⟩
    · refine ⟨⟨0, "", a, ""⟩, Team.answersTo_shortName _, ?_⟩
      exact Team.answersTo_iff.mpr (.inr (displayName_of_mem listed))
    · refine ⟨⟨0, "", b, ""⟩, ?_, Team.answersTo_shortName _⟩
      exact Team.answersTo_iff.mpr (.inr (displayName_of_mem listed))

namespace Config

/-- The team that a party holds. -/
def teamOf (config : Config) (seat : Seat) : String := (config.parties.get seat).team

/-- At most one party holds the club. -/
def HeldOnce (config : Config) (club : Team) : Prop :=
  ∀ seat other, club.answersTo (config.teamOf seat) = true →
    club.answersTo (config.teamOf other) = true → seat = other

end Config

/-- The parties of settings that fit together are those that were given, with different teams. -/
theorem Settings.parties_of_check {settings : Settings} {config : Config}
    (h : settings.check = .ok config) :
    settings.parties = config.parties.toList ∧ (config.parties.toList.map Party.team).Nodup := by
  obtain ⟨parties, nodup, _⟩ := check_eq_ok_iff.mp h
  rw [parties] at nodup
  exact ⟨parties, nodup⟩

namespace Config

variable {text : String} {config : Config}

theorem teamOf_injective (accepted : ofText text = .ok config) {seat other : Seat}
    (same : config.teamOf seat = config.teamOf other) : seat = other := by
  obtain ⟨settings, _, hc⟩ := ofText_eq_ok_iff.mp accepted
  have nodup : (Seat.all.map config.teamOf).Nodup := (Settings.parties_of_check hc).2
  exact List.inj_on_of_nodup_map nodup (Seat.mem_all seat) (Seat.mem_all other) same

/-- **When no club is held twice.** In a configuration that is accepted, at most one party holds any
club, as it may stand in a row of the table or on a side of a fixture, exactly if no party's team is
the short name of a club that is shown under the name of another party's team. -/
theorem held_once_iff (accepted : ofText text = .ok config) :
    (∀ club : Team, config.HeldOnce club) ↔
      ∀ seat other, (config.teamOf seat, config.teamOf other) ∉ displayNames := by
  constructor
  · intro once seat other listed
    obtain ⟨club, hs, ho⟩ := exists_answersTo_both_iff.mpr (.inr (.inl listed))
    obtain rfl := once club seat other hs ho
    have differ : ∀ pair ∈ displayNames, pair.1 ≠ pair.2 := by decide
    exact differ _ listed rfl
  · intro unlisted club seat other hs ho
    rcases exists_answersTo_both_iff.mp ⟨club, hs, ho⟩ with same | listed | listed
    · exact teamOf_injective accepted same
    · exact absurd listed (unlisted seat other)
    · exact absurd listed (unlisted other seat)

/-! ## A club that is held twice -/

/-- A text in which two parties name the same club. -/
def doubledText : String :=
  "server.port = 8080\n" ++ "provider.kind = \"football_data\"\n" ++
  "[[wager]]\nteam = \"Wolverhampton\"\nplayer = \"Steve\"\n" ++
  "[[wager]]\nteam = \"Wolves\"\nplayer = \"Tim\"\n" ++
  "[[wager]]\nteam = \"Tottenham\"\nplayer = \"Thommo\"\n"

/-- The configuration that it gives. -/
def doubled : Config where
  port := 8080
  rules := .standard
  provider := ⟨.feed, "https://api.football-data.org/v4", "PL", none, 3, 15, none⟩
  parties := ⟨⟨"Wolverhampton", "Steve"⟩, ⟨"Wolves", "Tim"⟩, ⟨"Tottenham", "Thommo"⟩⟩

theorem ofText_doubledText : ofText doubledText = .ok doubled :=
  ofText_eq_ok_of_toOption (by decide +kernel)

theorem held_once_iff_doubled :
    ofText doubledText = .ok doubled ∧ ((∀ club : Team, doubled.HeldOnce club) ↔
      ∀ seat other, (doubled.teamOf seat, doubled.teamOf other) ∉ displayNames) :=
  ⟨ofText_doubledText, held_once_iff ofText_doubledText⟩

/-- The two parties both hold the club with the short name. -/
theorem not_held_once_doubled : ¬ ∀ text config, ofText text = .ok config →
    ∀ club : Team, config.HeldOnce club := by
  intro once
  have both := once _ _ ofText_doubledText
    ⟨76, "Wolverhampton Wanderers FC", "Wolverhampton", "WOL"⟩
  cases both .first .second (by decide) (by decide)

end Config

end LeagueWager
