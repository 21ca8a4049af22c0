import InteractiveFiction.Proofs.Engine.Refusal
import InteractiveFiction.Proofs.Engine.Scores
import InteractiveFiction.Proofs.Engine.Timing

/-!
What loading leaves of a saved game.

The scene at which a game was saved is shown again, but not entered again.  Of the state that was
saved only two things change: the timed effects that have run out are gone with their flags, and the
scores are counted anew.  No bundle is applied, and nothing waits (`loaded_game_of_slot`).

What has run out is taken away under its own key.  In a saved game that holds an effect under
another key it is the effect under that key which goes (`blessing_taken_for_curse`).
-/

set_option autoImplicit false

namespace InteractiveFiction

open Course

namespace GameState

/-! ## Scores counted anew -/

/-- Two states of which the later has other scores at most, and every achievement of the earlier. -/
structure Scored (before left : GameState) : Prop where
  same : left = before.withScores left.scores
  achieved : before.progress.achievementsUnlocked <+: left.progress.achievementsUnlocked

namespace Scored

instance : Std.Refl Scored :=
  ⟨fun state => ⟨state.withScores_scores.symm, List.prefix_refl _⟩⟩

instance : Trans Scored Scored Scored :=
  ⟨fun {a b c} h h' => by
    refine ⟨?_, h.achieved.trans h'.achieved⟩
    calc c = b.withScores c.scores := h'.same
      _ = (a.withScores b.scores).withScores c.scores := by rw [← h.same]
      _ = a.withScores c.scores := GameState.withScores_withScores a _ _⟩

end Scored

end GameState

/-- The game goes on with other scores at most, and no bundle was applied. -/
structure Sitting.Scored (s t : Sitting) : Prop where
  state : ∀ before, s.engine.state = some before →
    ∃ left, t.engine.state = some left ∧ before.Scored left
  closings : closings t.engine.published = closings s.engine.published

namespace Sitting.Scored

instance : Std.Refl Sitting.Scored :=
  ⟨fun _ => ⟨fun before isState => ⟨before, isState, Std.Refl.refl before⟩, rfl⟩⟩

instance : Trans Sitting.Scored Sitting.Scored Sitting.Scored :=
  ⟨fun {s t u} h h' => by
    refine ⟨fun before isState => ?_, h'.closings.trans h.closings⟩
    obtain ⟨between, isBetween, first⟩ := h.state before isState
    obtain ⟨left, isLeft, next⟩ := h'.state between isBetween
    exact ⟨left, isLeft, Trans.trans first next⟩⟩

end Sitting.Scored

/-- Who is there and what is played does not count. -/
theorem Sitting.scored_of_offstage {s t : Sitting} (same : t.offstage = s.offstage) : s.Scored t := by
  have state : t.engine.state = s.engine.state := (congrArg (fun s => s.engine.state) same :)
  have published : t.engine.published = s.engine.published :=
    (congrArg (fun s => s.engine.published) same :)
  refine ⟨fun before isBefore => ⟨before, state.trans isBefore, Std.Refl.refl before⟩, ?_⟩
  rw [published]

theorem Turn.scored_counting : Counting Sitting.Scored where
  scores change grows := by
    refine .modify fun s => ⟨fun before isState => ?_, rfl⟩
    refine ⟨before.withScores (change before), ?_, rfl, grows before⟩
    dsimp only
    rw [isState]
    rfl
  tells event opens := by
    refine .bind (.of_reads confined_now) fun now => .modify fun s => ?_
    refine ⟨fun before isState => ⟨before, isState, Std.Refl.refl before⟩, ?_⟩
    exact closings_concat opens _ now
  plays _ := .modify fun _ => Sitting.scored_of_offstage rfl

/-! ## The sweep -/

namespace TimedEffect

/-- To take effects away is to apply no bundle. -/
theorem expire_closesNone (now : Instant) :
    Confined (fun stage : Stage => closings stage.published) AnyFault (expire now) := by
  refine .bind Action.confined_state fun state => ?_
  refine .bind (.forIn _ _ fun effect _ _ => ?_) fun _ => .pure _
  have lapses : Confined (fun stage : Stage => closings stage.published) AnyFault effect.lapse := by
    refine .intro fun stage => ?_
    rw [outcome_lapse]
    split
    · exact ⟨rfl, .ok ()⟩
    · exact ⟨rfl, .throw trivial⟩
  exact .bind lapses fun _ => .bind (.modify fun stage => closings_concat rfl _ stage.now) fun _ =>
    .pure _

end TimedEffect

namespace Turn

theorem sweep_closesNone :
    Confined (fun s : Sitting => closings s.engine.published) AnyFault sweep := by
  refine .bind confined_now fun now => .intro fun s => ?_
  cases hs : s.engine.state with
  | none =>
    rw [outcome_onStage_of_none hs]
    exact ⟨rfl, .throw trivial⟩
  | some state =>
    rw [outcome_onStage_of_some hs]
    exact ⟨(TimedEffect.expire_closesNone now).keeps (s.stage state), Result.anyFault _⟩

/-! ## Showing a scene again -/

theorem outcome_moveTo_resume (id : Document) (s : Sitting) :
    outcome (moveTo id .resume) s = (.ok (), { s with engine := { s.engine.forgetDelayed with
      state := s.engine.state.map fun state => { state with currentSceneId := id } } }) := rfl

/-- To show again the scene at which a game stands leaves the game as it is. -/
theorem scored_of_arrive {scene : Scene} {s t : Sitting} {presented : PresentedScene}
    {state : GameState} (isState : s.engine.state = some state)
    (arrived : outcome (arrive state.currentSceneId .resume scene) s = (.ok presented, t)) :
    s.Scored t := by
  obtain ⟨shown, s₁, reached, shows⟩ := ok_of_outcome_bind arrived
  obtain ⟨_, s₂, moved, prepared⟩ := ok_of_outcome_bind reached
  have put : s.Scored s₂ := by
    rw [outcome_moveTo_resume] at moved
    cases moved
    refine ⟨fun before isBefore => ⟨before, ?_, Std.Refl.refl before⟩, rfl⟩
    rw [isState] at isBefore ⊢
    cases isBefore
    rfl
  have ready : s₂.Scored s₁ :=
    Sitting.scored_of_offstage ((prepareScene_confined scene).of_outcome prepared).1
  have shown' : s₁.Scored t := by
    cases shows
    exact ⟨fun before isBefore => ⟨before, isBefore, Std.Refl.refl before⟩, rfl⟩
  exact Trans.trans (Trans.trans put ready) shown'

theorem parts_of_resume {id : Document} {s t : Sitting} {presented : PresentedScene}
    (resumed : outcome (enterScene id .resume) s = (.ok presented, t)) :
    ∃ scene s₁ s₂, outcome (approach id .resume) s = (.ok scene, s₁) ∧
      outcome (arrive id .resume scene) s₁ = (.ok presented, s₂) ∧
      outcome (countVisit id presented) s₂ = (.ok (), t) := by
  rw [enterScene_eq] at resumed
  obtain ⟨scene, s₁, approached, afterApproach⟩ := ok_of_outcome_bind resumed
  obtain ⟨shown, s₂, arrived, settled⟩ := ok_of_outcome_bind afterApproach
  obtain ⟨_, s₃, counted, gives⟩ := ok_of_outcome_bind settled
  cases gives
  exact ⟨scene, s₁, s₂, approached, arrived, counted⟩

/-- Of a game that is shown again what has run out goes, and the scores are counted anew. -/
theorem scored_of_resume {s t : Sitting} {presented : PresentedScene} {state : GameState}
    (isState : s.engine.state = some state)
    (resumed : outcome (enterScene state.currentSceneId .resume) s = (.ok presented, t)) :
    (∃ left, t.engine.state = some left ∧
      (state.shedAll (state.lapsed s.world.now)).Scored left) ∧
      closings t.engine.published = closings s.engine.published := by
  obtain ⟨scene, s₁, s₂, approached, arrived, counted⟩ := parts_of_resume resumed
  obtain ⟨lapsed, s', swept, found⟩ := ok_of_outcome_bind approached
  have same : s₁ = s' := by
    have kept := (findScene_reads state.currentSceneId .resume).after_eq s'
    rwa [after, found] at kept
  subst same
  obtain ⟨before, shed, isBefore, isShed, rfl, rfl, -⟩ := state_of_sweep swept
  obtain rfl : state = before := Option.some.inj (isState.symm.trans isBefore)
  have stands : (state.shedAll (state.lapsed s.world.now)).currentSceneId = state.currentSceneId := by
    rw [GameState.shedAll_eq]
    rfl
  rw [← stands] at arrived
  have scored : s₁.Scored t :=
    Trans.trans (scored_of_arrive isShed arrived) ((scored_counting.countVisit _ _).of_outcome counted)
  obtain ⟨closesNone, -⟩ := sweep_closesNone.of_outcome swept
  exact ⟨scored.state _ isShed, scored.closings.trans closesNone⟩

/-- The delayed effects of the scene that is shown again do not wait. -/
theorem nothing_waits_of_resume {id : Document} {s t : Sitting} {presented : PresentedScene}
    (resumed : outcome (enterScene id .resume) s = (.ok presented, t)) :
    t.engine.delayed = none ∧ t.engine.timers = s.engine.forgetDelayed.timers := by
  obtain ⟨scene, s₁, s₂, approached, arrived, counted⟩ := parts_of_resume resumed
  obtain ⟨kept, known, isScene⟩ := approached_ends approached
  obtain ⟨-, now, scenery⟩ := arrive_ends known isScene arrived
  obtain ⟨footing, -⟩ := (countVisit_steady id presented).of_outcome counted
  have left : t.scenery = shownScenery presented now (movedScenery id s.scenery) := by
    rw [scenery_of_footing footing, scenery, kept]
  refine ⟨?_, ?_⟩
  · exact (congrArg (fun scenery => scenery.1.delayed) left :)
  · exact (congrArg (fun scenery => scenery.1.timers) left :)

end Turn

/-! ## Loading -/

theorem Opening.load_of_find {slot : String} {s t : Sitting} {state : GameState}
    (found : outcome (Opening.savedGame slot).find s = (.ok state, t)) :
    s.world.store.load s.world.now slot = .ok state ∧ t = s := by
  obtain ⟨world, s₁, isWorld, read⟩ := ok_of_outcome_bind found
  cases isWorld
  rw [Turn.outcome_lift] at read
  obtain ⟨isSaved, rfl⟩ := Prod.mk.inj read
  exact ⟨isSaved, rfl⟩

/-- What loading leaves of a state: what has run out is gone by its key, and the scores are counted
anew, with no achievement taken back. -/
structure GameState.Reloaded (now : Instant) (saved left : GameState) : Prop where
  state : left = (saved.withoutEffects ((saved.lapsed now).map TimedEffect.key)).withScores left.scores
  achieved : saved.progress.achievementsUnlocked <+: left.progress.achievementsUnlocked
  /-- Where each effect that has run out is held under its own key, those are the effects that go. -/
  effects : (∀ entry ∈ saved.timedEffects.entries, entry.2.isExpired now = true →
      entry.1 = entry.2.key) →
    left.timedEffects.entries = saved.timedEffects.entries.filter fun entry => !entry.2.isExpired now

theorem GameState.reloaded_of_scored {now : Instant} {saved left : GameState}
    (h : (saved.shedAll (saved.lapsed now)).Scored left) : saved.Reloaded now left := by
  obtain ⟨same, achieved⟩ := h
  rw [shedAll_eq] at same achieved
  refine ⟨same, achieved, fun own => ?_⟩
  have effects : left.timedEffects =
      saved.timedEffects.without ((saved.lapsed now).map TimedEffect.key) :=
    congrArg GameState.timedEffects same
  rw [effects]
  exact OrderedMap.entries_without own

/-- No timer waits for delayed effects once a game runs in which there are none. -/
theorem Sitting.live_begun {s : Sitting} {state : GameState} (isState : s.engine.state = some state)
    (idle : s.engine.timers = []) (none : s.engine.delayed = none) :
    s.begun.engine.live .delayedEffects = 0 := by
  have settings : s.engine.state.map GameState.settings = some state.settings := by
    rw [isState]
    rfl
  have unset : ∀ kind, { s.engine with status := .running }.live kind = 0 :=
    Engine.live_of_no_timers idle
  have wanted := Engine.live_startTimers { s.engine with status := .running } .delayedEffects
    s.world.elapsed settings (fun kind _ => unset kind) (by rw [unset]; exact Nat.zero_le _)
  refine wanted.trans ?_
  rw [Engine.wanted, Engine.pending, none]
  rfl

/-- A game that was loaded is the one in the slot, as it is shown again: no bundle was applied, and
none waits. -/
theorem loaded_game_of_slot {s t : Sitting} {slot : String} {presented : PresentedScene}
    (loaded : outcome (Turn.loadGame slot) s = (.ok presented, t)) :
    ∃ saved left, s.world.store.load s.world.now slot = .ok saved ∧
      t.engine.state = some left ∧ saved.Reloaded s.world.now left ∧
      closings t.engine.published = closings s.engine.published ∧
      t.engine.delayed = none ∧ t.engine.live .delayedEffects = 0 := by
  have opened : outcome (Opening.savedGame slot).turn s = (.ok presented, t) := loaded
  obtain ⟨saved, s₁, s₂, id, found, resumed, rfl⟩ := Opening.entered_of_turn opened
  obtain ⟨isSaved, rfl⟩ := Opening.load_of_find found
  obtain ⟨⟨left, isLeft, scored⟩, closesNone⟩ := Turn.scored_of_resume rfl resumed
  obtain ⟨none, timers⟩ := Turn.nothing_waits_of_resume resumed
  have isState : s₂.begun.engine.state = some left := s₂.state_begun.trans isLeft
  have waits : s₂.begun.engine.delayed = .none := s₂.delayed_begun.trans none
  have published : s₂.begun.engine.published = s₂.engine.published :=
    (congrArg Engine.published s₂.untimed_begun :)
  refine ⟨saved, left, isSaved, isState, GameState.reloaded_of_scored scored, ?_, waits, ?_⟩
  · rw [Sitting.announce, closings_concat rfl, published]
    exact closesNone
  · exact s₂.live_begun isLeft timers none

namespace Harbour

/-- A game that was saved under a curse, when that has run out. -/
def savedHexed : Sitting :=
  ((onPier.step (.choose "dare")).step (.manualSave "Evening")).setClock 1000600.0

def hex : TimedEffect where
  kind := "curse"
  type := "hex"
  startTime := 1000000.0
  duration := 60.0

def luck : TimedEffect where
  kind := "blessing"
  type := "luck"
  startTime := 1000000.0
  duration := 6000.0

/-- A saved game in which a blessing is held under the key of a curse. -/
def mislaid : GameState :=
  { GameState.starting 1000000.0 "game" "ferry" "pier" "Ada" {} with
    timedEffects := .ofEntries [("omen", hex), (hex.key, luck)] }

/-- An engine beside that game, when the curse has run out. -/
def besideMislaid : Sitting :=
  let slot := SaveSlot.ofState 1000000.0 "slot" mislaid "Mislaid" false
  let store : MemoryStore := ⟨.ofEntries [("slot", slot.archive mislaid)]⟩
  (Sitting.fresh { now := 1000600.0, store := { medium := .memory store } } library {} {}).step .wake

end Harbour

/-- The game that was saved under a curse goes on without it. -/
theorem hex_gone_after_loading :
    ∃ presented t, outcome (Turn.loadGame "save_000000020000") Harbour.savedHexed =
        (.ok presented, t) ∧
      ∃ saved left, Harbour.savedHexed.world.store.load Harbour.savedHexed.world.now
          "save_000000020000" = .ok saved ∧
        t.engine.state = some left ∧ saved.Reloaded Harbour.savedHexed.world.now left ∧
        closings t.engine.published = closings Harbour.savedHexed.engine.published ∧
        t.engine.delayed = none ∧ t.engine.live .delayedEffects = 0 := by
  have works : fault? (Turn.loadGame "save_000000020000") Harbour.savedHexed = none := by
    decide +kernel
  obtain ⟨presented, loaded⟩ := ok_of_no_fault works
  exact ⟨presented, _, loaded, loaded_game_of_slot loaded⟩

/-- The curse that has run out is held still, and the blessing that has not is gone. -/
theorem blessing_taken_for_curse :
    ∃ presented t saved left, outcome (Turn.loadGame "slot") Harbour.besideMislaid =
        (.ok presented, t) ∧
      Harbour.besideMislaid.world.store.load Harbour.besideMislaid.world.now "slot" = .ok saved ∧
      t.engine.state = some left ∧
      Harbour.hex.isExpired Harbour.besideMislaid.world.now = true ∧
      Harbour.luck.isExpired Harbour.besideMislaid.world.now = false ∧
      saved.timedEffects.entries = [("omen", Harbour.hex), ("curse_hex", Harbour.luck)] ∧
      left.timedEffects.entries = [("omen", Harbour.hex)] := by
  have works : fault? (Turn.loadGame "slot") Harbour.besideMislaid = none := by
    decide +kernel
  obtain ⟨presented, loaded⟩ := ok_of_no_fault works
  have reads : ((Harbour.besideMislaid.world.store.load Harbour.besideMislaid.world.now
      "slot").toOption.map fun saved => saved.timedEffects.entries) =
        some [("omen", Harbour.hex), ("curse_hex", Harbour.luck)] := by
    decide +kernel
  have holds : ((after (Turn.loadGame "slot") Harbour.besideMislaid).engine.state.map fun left =>
      left.timedEffects.entries) = some [("omen", Harbour.hex)] := by
    decide +kernel
  obtain ⟨left, isLeft, gone⟩ := Option.map_eq_some_iff.1 holds
  cases read : Harbour.besideMislaid.world.store.load Harbour.besideMislaid.world.now "slot" with
  | error fault =>
    rw [read] at reads
    cases reads
  | ok saved =>
    rw [read] at reads
    refine ⟨presented, _, saved, left, loaded, rfl, isLeft, ?_, ?_, Option.some.inj reads, gone⟩
    · decide +kernel
    · decide +kernel

end InteractiveFiction
