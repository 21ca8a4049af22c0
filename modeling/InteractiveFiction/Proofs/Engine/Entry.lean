import InteractiveFiction.Proofs.Turn

/-!
Entering a scene, part by part, and how far an entry gets.

An entry looks for the scene (`approach`), leaves the old one and shows the new one (`arrive`), and
then counts progress and unlocks achievements (`settleIn`); that is all of it (`enterScene_eq`).

* To look for a scene changes nothing but the state that is swept (`approached_ends`).
* Until the new scene is shown, all that has changed apart from the player and the cast is where the
  state stands (`movedScenery`); then it is shown (`shownScenery`, `arrive_ends`).
* What follows leaves both as they are, and fails before the delayed effects are set
  (`footing_of_unsettled`).

An entry ends in one of four ways, each told by what it leaves:

* `turnedAway`: nothing but the sweep of what has run out was done (`entry_turnedAway`);
* `stranded`: the state stands at the new scene, and the old one is still shown (`entry_stranded`);
* `unsettled`: the new scene is shown, but what depends on it failed (`entry_unsettled`);
* `arrived`: all was done (`entry_arrived`).

Only those who are turned away are told so: the other failures are of other kinds
(`entryEnd_of_turnsAway`).
-/

set_option autoImplicit false

namespace InteractiveFiction

open Course

namespace Turn

/-! ## The parts of an entry -/

def sweep : Turn (List TimedEffect) := do
  onStage (TimedEffect.expire (← now))

def approach (id : Document) (mode : EntryMode) : Turn Scene := do
  let _ ← sweep
  findScene id mode

def moveTo (id : Document) (mode : EntryMode) : Turn Unit := do
  modifyEngine Engine.forgetDelayed
  modifyState fun state => { state with currentSceneId := id }
  if mode.recordVisit then
    modifyState fun state =>
      { state with progress := { state.progress with
          scenesVisited := state.progress.scenesVisited ++ [id] } }

def renderScene (content : Repository) (scene : Scene) : Turn (PresentedScene × Instant) := do
  let state ← state
  let now ← now
  let choices ← content.choices state.storyId scene.choiceIds
  let presented ← scene.render now state choices
  pure (presented, now)

/-- Calls the characters of a scene, plays its music and renders it. -/
def prepareScene (scene : Scene) : Turn (PresentedScene × Instant) := do
  let content := (← engine).content
  let characters ← content.characters (← state).storyId scene.id
  modifyEngine fun engine => { engine with cast := engine.cast.enter characters }
  if scene.backgroundMusic.isTruthy && (← state).settings.musicEnabled.isTruthy then
    play (.playMusic scene.backgroundMusic .null)
  renderScene content scene

def reach (id : Document) (mode : EntryMode) (scene : Scene) : Turn (PresentedScene × Instant) := do
  moveTo id mode
  if mode.applyEffects && !scene.effects.isEmpty then
    let _ ← onStage scene.effects.process
  prepareScene scene

def arrive (id : Document) (mode : EntryMode) (scene : Scene) : Turn PresentedScene := do
  let (presented, now) ← reach id mode scene
  modifyEngine fun engine => { engine with scene := some presented, presentedAt := some now }
  pure presented

/-- What the visit of a scene counts for. -/
def countVisit (id : Document) (presented : PresentedScene) : Turn Unit := do
  updateProgress
  checkAchievements
  publish (.sceneChanged id presented.toDocument)

def settleIn (id : Document) (mode : EntryMode) (scene : Scene) (presented : PresentedScene) :
    Turn PresentedScene := do
  countVisit id presented
  if mode.applyEffects && scene.timeEffects.isSome then
    let elapsed := (← world).elapsed
    modifyEngine fun engine => { engine with delayed := scene.timeEffects }.arm elapsed
  pure presented

theorem showScene_eq (scene : Scene) :
    showScene scene = (do
      let (presented, now) ← prepareScene scene
      modifyEngine fun engine => { engine with scene := some presented, presentedAt := some now }
      pure presented) := by
  unfold showScene prepareScene renderScene
  simp only [bind_assoc]
  refine bind_congr fun engine => bind_congr fun state => bind_congr fun characters => ?_
  refine bind_congr fun _ => bind_congr fun state => ?_
  split <;> simp only [bind_assoc, pure_bind]

theorem enterScene_eq (id : Document) (mode : EntryMode) :
    enterScene id mode = (do
      let scene ← approach id mode
      let presented ← arrive id mode scene
      settleIn id mode scene presented) := by
  have afterMove : ∀ rest : Turn PresentedScene,
      (do moveTo id mode; rest) = (do
        modifyEngine Engine.forgetDelayed
        modifyState fun state => { state with currentSceneId := id }
        if mode.recordVisit then do
          modifyState fun state =>
            { state with progress := { state.progress with
                scenesVisited := state.progress.scenesVisited ++ [id] } }
          rest
        else rest) := by
    intro rest
    unfold moveTo
    simp only [bind_assoc]
    refine bind_congr fun _ => bind_congr fun _ => ?_
    split <;> simp only [pure_bind]
  unfold enterScene approach sweep arrive reach settleIn countVisit
  simp only [bind_assoc, showScene_eq]
  refine bind_congr fun now => bind_congr fun _ => bind_congr fun scene => ?_
  rw [afterMove]
  refine bind_congr fun _ => bind_congr fun _ => ?_
  split <;> split <;> simp only [bind_assoc, pure_bind]

/-- An entry until achievements are checked. -/
def enterUntilCheck (id : Document) (mode : EntryMode) : Turn (Scene × PresentedScene) := do
  let scene ← approach id mode
  let presented ← arrive id mode scene
  updateProgress
  pure (scene, presented)

/-- Tells of the new scene, and sets the effects that are to come. -/
def concludeEntry (id : Document) (mode : EntryMode) (scene : Scene) (presented : PresentedScene) :
    Turn PresentedScene := do
  publish (.sceneChanged id presented.toDocument)
  if mode.applyEffects && scene.timeEffects.isSome then
    let elapsed := (← world).elapsed
    modifyEngine fun engine => { engine with delayed := scene.timeEffects }.arm elapsed
  pure presented

/-- Once achievements are checked, an entry does not fail any more. -/
theorem concludeEntry_returns (id : Document) (mode : EntryMode) (scene : Scene)
    (presented : PresentedScene) (s : Sitting) :
    ∃ s', outcome (concludeEntry id mode scene presented) s = (.ok presented, s') := by
  unfold concludeEntry
  rw [outcome_bind_of_ok (outcome_publish _ s)]
  split <;> exact ⟨_, rfl⟩

theorem enterScene_eq_check (id : Document) (mode : EntryMode) :
    enterScene id mode = (do
      let (scene, presented) ← enterUntilCheck id mode
      checkAchievements
      concludeEntry id mode scene presented) := by
  rw [enterScene_eq]
  unfold settleIn countVisit enterUntilCheck concludeEntry
  simp only [bind_assoc, pure_bind]

/-! ## Looking for the scene -/

theorem sweep_steady : Steady Fault.IsAccident sweep :=
  .bind confined_now fun now => onStage_steady (TimedEffect.expire_inFront now)

/-- To look for a scene changes nothing. -/
theorem findScene_reads (id : Document) (mode : EntryMode) :
    Confined (fun s => s) AnyFault (findScene id mode) := by
  refine .bind (confined_state trivial) fun state => .bind confined_engine fun engine => ?_
  refine .bind (confined_lift (Result.anyFault _)) fun scene => ?_
  refine .branch (.bind confined_now fun now => ?_) (.pure scene)
  refine .bind (confined_lift (Result.anyFault _)) fun accessible => ?_
  exact .branch (.bind (.throw trivial) fun _ => .pure scene) (.pure scene)

theorem after_approach (id : Document) (mode : EntryMode) (s : Sitting) :
    after (approach id mode) s = after sweep s := by
  unfold approach after
  rw [outcome_bind]
  rcases ends : outcome sweep s with ⟨r, s'⟩
  cases r with
  | ok lapsed => exact (findScene_reads id mode).after_eq s'
  | error fault => rfl

/-- What the access check lets through is the scene itself. -/
theorem scene_of_checked {id : Document} {mode : EntryMode} {state : GameState} {s s' : Sitting}
    {other scene : Scene}
    (h : outcome (do
      if mode.checkAccess then
        if !(← other.isAccessible (← now) state) then throw (.sceneInaccessible id)
      pure other : Turn Scene) s = (.ok scene, s')) : other = scene := by
  split at h
  · obtain ⟨now, s₁, -, h⟩ := ok_of_outcome_bind h
    obtain ⟨accessible, s₂, -, h⟩ := ok_of_outcome_bind h
    split at h
    · cases h
    · cases h
      rfl
  · cases h
    rfl

/-- The scene that is found is one of the story that is played. -/
theorem scene_of_approach {id : Document} {mode : EntryMode} {s s' : Sitting} {scene : Scene}
    (h : outcome (approach id mode) s = (.ok scene, s')) :
    ∃ state, s'.engine.state = some state ∧
      s'.engine.content.scene state.storyId id = .ok scene := by
  obtain ⟨_, s₁, -, found⟩ := ok_of_outcome_bind h
  have same : s' = s₁ := by
    have kept := (findScene_reads id mode).after_eq s₁
    rw [after, found] at kept
    exact kept
  subst same
  unfold findScene at found
  obtain ⟨state, s₂, isState, rest⟩ := ok_of_outcome_bind found
  obtain ⟨engine, s₃, isEngine, rest'⟩ := ok_of_outcome_bind rest
  obtain ⟨other, s₄, isScene, checked⟩ := ok_of_outcome_bind rest'
  obtain rfl := scene_of_checked checked
  obtain ⟨rfl, isGame⟩ := some_of_outcome_state isState
  cases isEngine
  rw [outcome_lift] at isScene
  exact ⟨state, isGame, (Prod.mk.inj isScene).1⟩

/-! ## Moving -/

end Turn

/-- The engine without who is there, and the place of its game. -/
def Sitting.scenery (s : Sitting) : Engine × Option Place :=
  ({ s.engine.bare with cast := {} }, s.engine.place)

/-- The story of the place has a scene of the id. -/
def Knows (id : Document) (scenery : Engine × Option Place) : Prop :=
  ∃ place scene, scenery.2 = some place ∧ scenery.1.content.scene place.story id = .ok scene

/-- The scenery once the game stands at another scene; what is shown is as it was. -/
def movedScenery (id : Document) (scenery : Engine × Option Place) : Engine × Option Place :=
  (scenery.1.forgetDelayed, scenery.2.map fun place => { place with scene := id })

/-- The scenery once a scene is shown. -/
def shownScenery (presented : PresentedScene) (now : Instant) (scenery : Engine × Option Place) :
    Engine × Option Place :=
  ({ scenery.1 with scene := some presented, presentedAt := some now }, scenery.2)

theorem stance_of_movedScenery {id : Document} {s t : Sitting}
    (h : t.scenery = movedScenery id s.scenery) :
    t.stance = (s.engine.status, s.engine.scene,
      s.engine.place.map fun place => { place with scene := id }) :=
  congrArg (fun scenery => (scenery.1.status, scenery.1.scene, scenery.2)) h

theorem stance_of_shownScenery {id : Document} {presented : PresentedScene} {now : Instant}
    {s t : Sitting} (h : t.scenery = shownScenery presented now (movedScenery id s.scenery)) :
    t.stance = (s.engine.status, some presented,
      s.engine.place.map fun place => { place with scene := id }) :=
  congrArg (fun scenery => (scenery.1.status, scenery.1.scene, scenery.2)) h

theorem Knows.moved {id : Document} {scenery : Engine × Option Place} (h : Knows id scenery) :
    Knows id (movedScenery id scenery) := by
  obtain ⟨place, scene, isPlace, found⟩ := h
  refine ⟨{ place with scene := id }, scene, ?_, found⟩
  rw [movedScenery, isPlace]
  rfl

namespace Turn

theorem scenery_of_footing {s t : Sitting} (h : s.footing = t.footing) : s.scenery = t.scenery :=
  congrArg (fun footing : Engine × Option Place => ({ footing.1 with cast := {} }, footing.2)) h

theorem moveTo_ends (id : Document) (mode : EntryMode) (s : Sitting) :
    ∃ s', outcome (moveTo id mode) s = (.ok (), s') ∧ s'.scenery = movedScenery id s.scenery := by
  rcases ends : outcome (moveTo id mode) s with ⟨r, s'⟩
  have visit : Steady (fun _ => False) (if mode.recordVisit then
      modifyState fun state =>
        { state with progress := { state.progress with
            scenesVisited := state.progress.scenesVisited ++ [id] } }
      else pure ()) :=
    .branch (modifyState_steady fun _ => rfl) (.pure ())
  unfold moveTo at ends
  rw [outcome_bind_of_ok (outcome_modifyEngine _ _)] at ends
  rw [outcome_bind_of_ok (outcome_modifyState _ _)] at ends
  obtain ⟨kept, never⟩ := visit.of_outcome ends
  cases r with
  | error fault => exact absurd (never fault rfl) not_false
  | ok _ =>
    refine ⟨s', rfl, (scenery_of_footing kept).trans ?_⟩
    refine Prod.ext rfl ?_
    unfold Sitting.scenery movedScenery Engine.place Engine.forgetDelayed
    cases s.engine.state <;> rfl

/-- Whoever is in a scene that is known can be told. -/
theorem characters_of_knows {s : Sitting} {state : GameState} {id : Document}
    (known : Knows id s.scenery) (h : s.engine.state = some state) :
    Result.Mild (s.engine.content.characters state.storyId id) := by
  obtain ⟨place, scene, isPlace, found⟩ := known
  have same : place = state.place := by
    rw [Sitting.scenery, Engine.place, h] at isPlace
    exact (Option.some.inj isPlace).symm
  subst same
  exact Repository.characters_mild found

theorem renderScene_confined (content : Repository) (scene : Scene) :
    Confined Sitting.scenery Fault.IsMild (renderScene content scene) := by
  refine .bind (confined_state rfl) fun state => .bind confined_now fun now => ?_
  refine .bind (confined_lift (Repository.choices_mild _ _ _)) fun choices => ?_
  exact .bind (confined_lift (Scene.render_mild _ _ _ _)) fun _ => .pure _

theorem scene_of_renderScene {content : Repository} {scene : Scene} {s s' : Sitting}
    {shown : PresentedScene × Instant}
    (h : outcome (renderScene content scene) s = (.ok shown, s')) : shown.1.scene = scene := by
  obtain ⟨state, s₁, -, afterState⟩ := ok_of_outcome_bind h
  obtain ⟨now, s₂, -, afterNow⟩ := ok_of_outcome_bind afterState
  obtain ⟨choices, s₃, -, afterChoices⟩ := ok_of_outcome_bind afterNow
  obtain ⟨presented, s₄, rendered, shows⟩ := ok_of_outcome_bind afterChoices
  cases shows
  rw [outcome_lift] at rendered
  exact Scene.scene_of_render (Prod.mk.inj rendered).1

theorem prepareScene_ends {scene : Scene} {s s' : Sitting}
    {r : Except Fault (PresentedScene × Instant)} (known : Knows scene.id s.scenery)
    (ends : outcome (prepareScene scene) s = (r, s')) :
    s'.scenery = s.scenery ∧ Result.FailsIn Fault.IsMild r := by
  unfold prepareScene at ends
  rw [outcome_bind_of_ok (outcome_engine s)] at ends
  cases hs : s.engine.state with
  | none =>
    rw [outcome_bind_of_error (by rw [outcome_state, hs])] at ends
    cases ends
    exact ⟨rfl, .throw rfl⟩
  | some state =>
    rw [outcome_bind_of_ok (outcome_state_of_some hs)] at ends
    have mild := characters_of_knows known hs
    have rendering := renderScene_confined s.engine.content scene
    refine Confined.of_outcome_bind (fun characters => ?_) ends ?_ ?_
    · refine .bind (.modify fun _ => rfl) fun _ => .bind (confined_state rfl) fun _ => ?_
      exact .branch (.bind (.modify fun _ => rfl) fun _ => rendering) rendering
    · rw [after, outcome_lift]
    · rw [result, outcome_lift]
      exact mild

theorem scene_of_prepareScene {scene : Scene} {s s' : Sitting} {shown : PresentedScene × Instant}
    (h : outcome (prepareScene scene) s = (.ok shown, s')) : shown.1.scene = scene := by
  obtain ⟨engine, s₁, -, afterEngine⟩ := ok_of_outcome_bind h
  obtain ⟨state, s₂, -, afterState⟩ := ok_of_outcome_bind afterEngine
  obtain ⟨characters, s₃, -, afterCharacters⟩ := ok_of_outcome_bind afterState
  obtain ⟨_, s₄, -, afterCast⟩ := ok_of_outcome_bind afterCharacters
  obtain ⟨state', s₅, -, afterMusic⟩ := ok_of_outcome_bind afterCast
  split at afterMusic
  · obtain ⟨_, s₆, -, shows⟩ := ok_of_outcome_bind afterMusic
    exact scene_of_renderScene shows
  · exact scene_of_renderScene afterMusic

/-! ## Arriving -/

/-- A scene that was found is there still, and the scenery is the one from before. -/
theorem approached_ends {id : Document} {mode : EntryMode} {s s' : Sitting} {scene : Scene}
    (approached : outcome (approach id mode) s = (.ok scene, s')) :
    s'.scenery = s.scenery ∧ Knows id s'.scenery ∧ scene.id = id := by
  have left := after_approach id mode s
  rw [after, approached] at left
  have kept : s'.scenery = s.scenery := by
    dsimp only at left
    rw [left]
    exact scenery_of_footing (sweep_steady.keeps s)
  obtain ⟨state, isState, found⟩ := scene_of_approach approached
  refine ⟨kept, ⟨state.place, scene, ?_, found⟩, Repository.scene_of_ok found⟩
  rw [Sitting.scenery, Engine.place, isState]
  rfl

theorem reach_ends {id : Document} {mode : EntryMode} {scene : Scene} {s s' : Sitting}
    {r : Except Fault (PresentedScene × Instant)} (known : Knows id s.scenery)
    (same : scene.id = id) (ends : outcome (reach id mode scene) s = (r, s')) :
    s'.scenery = movedScenery id s.scenery ∧ Result.FailsIn Fault.IsMild r ∧
      ∀ shown, r = .ok shown → shown.1.scene.id = id := by
  subst same
  obtain ⟨s₁, moved, scenery⟩ := moveTo_ends scene.id mode s
  unfold reach at ends
  rw [outcome_bind_of_ok moved] at ends
  have prepared : ∀ {s₂ : Sitting}, s₂.scenery = s₁.scenery →
      outcome (prepareScene scene) s₂ = (r, s') →
      s'.scenery = movedScenery scene.id s.scenery ∧ Result.FailsIn Fault.IsMild r ∧
        ∀ shown, r = .ok shown → shown.1.scene.id = scene.id := by
    intro s₂ kept ends
    have known' : Knows scene.id s₂.scenery := by
      rw [kept, scenery]
      exact known.moved
    obtain ⟨kept', mild⟩ := prepareScene_ends known' ends
    refine ⟨kept'.trans (kept.trans scenery), mild, fun shown ok => ?_⟩
    rw [ok] at ends
    rw [scene_of_prepareScene ends]
  split at ends
  · have steady := onStage_steady scene.effects.process_inFront
    rcases applied : outcome (onStage scene.effects.process) s₁ with ⟨r', s₂⟩
    obtain ⟨kept, fails⟩ := steady.of_outcome applied
    cases r' with
    | error fault =>
      rw [outcome_bind_of_error applied] at ends
      cases ends
      refine ⟨(scenery_of_footing kept).trans scenery, .throw (fails fault rfl).isMild, ?_⟩
      intro shown ok
      cases ok
    | ok outcomes =>
      rw [outcome_bind_of_ok applied] at ends
      exact prepared (scenery_of_footing kept) ends
  · exact prepared rfl ends

theorem arrive_ends {id : Document} {mode : EntryMode} {scene : Scene} {s s' : Sitting}
    {r : Except Fault PresentedScene} (known : Knows id s.scenery) (same : scene.id = id)
    (ends : outcome (arrive id mode scene) s = (r, s')) :
    match r with
    | .error fault => fault.IsMild ∧ s'.scenery = movedScenery id s.scenery
    | .ok presented => presented.scene.id = id ∧
      ∃ now, s'.scenery = shownScenery presented now (movedScenery id s.scenery) := by
  unfold arrive at ends
  rcases reached : outcome (reach id mode scene) s with ⟨r', s₁⟩
  obtain ⟨scenery, mild, isScene⟩ := reach_ends known same reached
  cases r' with
  | error fault =>
    rw [outcome_bind_of_error reached] at ends
    cases ends
    exact ⟨mild fault rfl, scenery⟩
  | ok shown =>
    rw [outcome_bind_of_ok reached] at ends
    cases ends
    refine ⟨isScene shown rfl, shown.2, ?_⟩
    rw [← scenery]
    rfl

/-! ## Settling in -/

theorem countVisit_steady (id : Document) (presented : PresentedScene) :
    Steady Fault.IsMild (countVisit id presented) :=
  .bind updateProgress_steady fun _ => .bind checkAchievements_steady fun _ => publish_steady _

theorem settleIn_confined (id : Document) (mode : EntryMode) (scene : Scene)
    (presented : PresentedScene) :
    Confined Sitting.stance Fault.IsMild (settleIn id mode scene presented) := by
  refine .bind (confined_stance (countVisit_steady id presented)) fun _ => ?_
  refine .branch (.bind confined_world fun world => .bind ?_ fun _ => .pure _) (.pure _)
  exact modifyEngine_keeps_stance fun engine => Engine.stance_arm _ _

/-- What fails once a scene is shown fails before its delayed effects are set. -/
theorem footing_of_unsettled {id : Document} {mode : EntryMode} {scene : Scene}
    {presented : PresentedScene} {s s' : Sitting} {fault : Fault}
    (ends : outcome (settleIn id mode scene presented) s = (.error fault, s')) :
    s'.footing = s.footing ∧ fault.IsMild := by
  unfold settleIn at ends
  rcases error_of_outcome_bind ends with counted | ⟨_, s₁, -, later⟩
  · obtain ⟨kept, mild⟩ := (countVisit_steady id presented).of_outcome counted
    exact ⟨kept, mild fault rfl⟩
  · split at later <;> cases later

theorem presented_of_settleIn {id : Document} {mode : EntryMode} {scene : Scene}
    {presented other : PresentedScene} {s s' : Sitting}
    (h : outcome (settleIn id mode scene presented) s = (.ok other, s')) : other = presented := by
  obtain ⟨_, s₁, -, later⟩ := ok_of_outcome_bind h
  split at later
  · obtain ⟨_, s₂, -, armed⟩ := ok_of_outcome_bind later
    cases armed
    rfl
  · cases later
    rfl

end Turn

namespace Turn

/-! ## How far an entry gets -/

/-- How far an entry got, with the fault that ended it early. -/
inductive EntryEnd where
  | turnedAway (fault : Fault)
  | stranded (fault : Fault)
  | unsettled (fault : Fault)
  | arrived (presented : PresentedScene)

def entryEnd (id : Document) (mode : EntryMode) (s : Sitting) : EntryEnd :=
  match outcome (approach id mode) s with
  | (.error fault, _) => .turnedAway fault
  | (.ok scene, s) =>
    match outcome (arrive id mode scene) s with
    | (.error fault, _) => .stranded fault
    | (.ok presented, s) =>
      match result (settleIn id mode scene presented) s with
      | .error fault => .unsettled fault
      | .ok _ => .arrived presented

/-! ## Entering -/

theorem entry_turnedAway {id : Document} {mode : EntryMode} {s : Sitting} {fault : Fault}
    (h : entryEnd id mode s = .turnedAway fault) :
    outcome (enterScene id mode) s = (.error fault, after sweep s) := by
  have left := after_approach id mode s
  rcases approached : outcome (approach id mode) s with ⟨r, s₁⟩
  rw [after, approached] at left
  rw [entryEnd, approached] at h
  cases r with
  | error fault' =>
    cases h
    rw [enterScene_eq, outcome_bind_of_error approached, ← left]
  | ok scene =>
    dsimp only at h
    split at h
    · cases h
    · split at h <;> cases h

theorem entry_stranded {id : Document} {mode : EntryMode} {s : Sitting} {fault : Fault}
    (h : entryEnd id mode s = .stranded fault) :
    fault.IsMild ∧ ∃ s', outcome (enterScene id mode) s = (.error fault, s') ∧
      s'.scenery = movedScenery id s.scenery := by
  rcases approached : outcome (approach id mode) s with ⟨r, s₁⟩
  rw [entryEnd, approached] at h
  cases r with
  | error fault' => cases h
  | ok scene =>
    obtain ⟨kept, known, same⟩ := approached_ends approached
    dsimp only at h
    rcases arrived : outcome (arrive id mode scene) s₁ with ⟨r', s₂⟩
    rw [arrived] at h
    cases r' with
    | ok presented => dsimp only at h; split at h <;> cases h
    | error fault' =>
      cases h
      obtain ⟨mild, scenery⟩ := arrive_ends known same arrived
      refine ⟨mild, s₂, ?_, by rw [scenery, kept]⟩
      rw [enterScene_eq, outcome_bind_of_ok approached, outcome_bind_of_error arrived]

/-- An entry that shows the scene, up to what follows from showing it. -/
theorem entry_shows {id : Document} {mode : EntryMode} {s : Sitting}
    (h : (∃ fault, entryEnd id mode s = .unsettled fault) ∨
      ∃ presented, entryEnd id mode s = .arrived presented) :
    ∃ scene presented s₂ now, outcome (enterScene id mode) s =
        outcome (settleIn id mode scene presented) s₂ ∧
      entryEnd id mode s = (match result (settleIn id mode scene presented) s₂ with
        | .error fault => .unsettled fault
        | .ok _ => .arrived presented) ∧
      presented.scene.id = id ∧
      s₂.scenery = shownScenery presented now (movedScenery id s.scenery) := by
  rcases approached : outcome (approach id mode) s with ⟨r, s₁⟩
  rw [entryEnd, approached] at h ⊢
  cases r with
  | error fault => rcases h with ⟨_, h⟩ | ⟨_, h⟩ <;> cases h
  | ok scene =>
    obtain ⟨kept, known, same⟩ := approached_ends approached
    dsimp only at h ⊢
    rcases arrived : outcome (arrive id mode scene) s₁ with ⟨r', s₂⟩
    rw [arrived] at h
    cases r' with
    | error fault => rcases h with ⟨_, h⟩ | ⟨_, h⟩ <;> cases h
    | ok presented =>
      obtain ⟨shows, now, scenery⟩ := arrive_ends known same arrived
      refine ⟨scene, presented, s₂, now, ?_, rfl, shows, by rw [scenery, kept]⟩
      rw [enterScene_eq, outcome_bind_of_ok approached, outcome_bind_of_ok arrived]

theorem entry_unsettled {id : Document} {mode : EntryMode} {s : Sitting} {fault : Fault}
    (h : entryEnd id mode s = .unsettled fault) :
    fault.IsMild ∧ ∃ s' presented now, outcome (enterScene id mode) s = (.error fault, s') ∧
      presented.scene.id = id ∧
      s'.scenery = shownScenery presented now (movedScenery id s.scenery) := by
  obtain ⟨scene, presented, s₂, now, same, ends, shows, scenery⟩ := entry_shows (.inl ⟨fault, h⟩)
  rcases settled : outcome (settleIn id mode scene presented) s₂ with ⟨r, s₃⟩
  rw [h, result, settled] at ends
  cases r with
  | ok _ => cases ends
  | error fault' =>
    cases ends
    obtain ⟨kept, mild⟩ := footing_of_unsettled settled
    refine ⟨mild, s₃, presented, now, same.trans settled, shows, ?_⟩
    rw [scenery_of_footing kept, scenery]

theorem entry_arrived {id : Document} {mode : EntryMode} {s : Sitting} {presented : PresentedScene}
    (h : entryEnd id mode s = .arrived presented) :
    ∃ s', outcome (enterScene id mode) s = (.ok presented, s') ∧ presented.scene.id = id ∧
      s'.stance = (s.engine.status, some presented,
        s.engine.place.map fun place => { place with scene := id }) := by
  obtain ⟨scene, presented', s₂, now, same, ends, shows, scenery⟩ := entry_shows (.inr ⟨_, h⟩)
  rcases settled : outcome (settleIn id mode scene presented') s₂ with ⟨r, s₃⟩
  rw [h, result, settled] at ends
  cases r with
  | error fault => cases ends
  | ok presented'' =>
    cases ends
    obtain ⟨kept, -⟩ := (settleIn_confined id mode scene presented).of_outcome settled
    obtain rfl := presented_of_settleIn settled
    exact ⟨s₃, same.trans settled, shows, kept.trans (stance_of_shownScenery scenery)⟩

/-! ## Being turned away -/

/-- Only who has not entered yet is turned away. -/
theorem entryEnd_of_turnsAway {id : Document} {mode : EntryMode} {s s' : Sitting} {fault : Fault}
    (turnsAway : fault.turnsAway = true)
    (ends : outcome (enterScene id mode) s = (.error fault, s')) :
    entryEnd id mode s = .turnedAway fault := by
  cases entry : entryEnd id mode s with
  | turnedAway fault' =>
    rw [entry_turnedAway entry] at ends
    cases ends
    rfl
  | stranded fault' =>
    obtain ⟨mild, s₁, stranded, -⟩ := entry_stranded entry
    rw [stranded] at ends
    cases ends
    exact absurd mild (Fault.not_isMild turnsAway)
  | unsettled fault' =>
    obtain ⟨mild, s₁, _, _, unsettled, -⟩ := entry_unsettled entry
    rw [unsettled] at ends
    cases ends
    exact absurd mild (Fault.not_isMild turnsAway)
  | arrived presented =>
    obtain ⟨s₁, arrived, -⟩ := entry_arrived entry
    rw [arrived] at ends
    cases ends

/-- Who is turned away finds the state as the sweep left it. -/
theorem swept_of_turnsAway {id : Document} {mode : EntryMode} {s s' : Sitting} {fault : Fault}
    (turnsAway : fault.turnsAway = true)
    (ends : outcome (enterScene id mode) s = (.error fault, s')) :
    ∃ lapsed, outcome sweep s = (.ok lapsed, s') := by
  have entry := entryEnd_of_turnsAway turnsAway ends
  rw [entry_turnedAway entry] at ends
  rcases swept : outcome sweep s with ⟨r, s₁⟩
  have left : s₁ = s' := by
    rw [after, swept] at ends
    exact (Prod.mk.inj ends).2
  subst left
  cases r with
  | ok lapsed => exact ⟨lapsed, rfl⟩
  | error fault' =>
    obtain ⟨-, accident⟩ := sweep_steady.of_outcome swept
    have approached : outcome (approach id mode) s = (.error fault', s₁) :=
      outcome_bind_of_error swept _
    rw [entryEnd, approached] at entry
    cases entry
    exact absurd (accident fault rfl).isMild (Fault.not_isMild turnsAway)

end Turn

end InteractiveFiction
