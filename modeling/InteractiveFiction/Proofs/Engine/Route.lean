import InteractiveFiction.Proofs.Engine.Movement
import InteractiveFiction.Proofs.Engine.Scores
import InteractiveFiction.Proofs.Engine.Stance
import InteractiveFiction.Proofs.Save.Keeping
import InteractiveFiction.Proofs.State.Writing
import Mathlib.Data.List.Perm.Subperm

/-!
Where a game has been, and turns that go on from there.

* `Route.Charted content route`: the scenes visited are of the story, and the last of them is the one
  at which the game stands; so there are no more of them than the story has scenes
  (`Route.Charted.distinct_le`).
* `Unmoved turn`: a turn that leaves the route and the saved games alone, as most do.
* `Sitting.Journeys s t`: if the route is charted at `s`, then it is so at `t`, and so is every game
  that was saved in between.  Entering scenes and saving go along (`enterScene_journeys`,
  `save_journeys`).
-/

set_option autoImplicit false

namespace InteractiveFiction

open Course

/-! ## Routes -/

/-- The story of a game, the scene it stands at, and the scenes it has visited. -/
structure Route where
  story : Document
  scene : Document
  visited : List Document
deriving DecidableEq

namespace Route

/-- Nowhere but in scenes of the story, and there last where the game stands. -/
structure Charted (content : Repository) (route : Route) : Prop where
  last : route.visited.getLast? = some route.scene
  known : ∀ id ∈ route.visited, ∃ scene, content.scene route.story id = .ok scene

/-- The route once a scene was entered, where the visit counts or not. -/
def moved (id : Document) (counts : Bool) (route : Route) : Route :=
  { route with scene := id, visited := if counts then route.visited ++ [id] else route.visited }

namespace Charted

variable {content : Repository} {route : Route}

theorem visit (h : route.Charted content) {id : Document} {scene : Scene}
    (found : content.scene route.story id = .ok scene) : (route.moved id true).Charted content where
  last := List.getLast?_concat
  known other mem := by
    rcases List.mem_append.1 mem with mem | mem
    · exact h.known other mem
    · obtain rfl := List.mem_singleton.1 mem
      exact ⟨scene, found⟩

theorem eraseDupsBy_subset {α : Type} (same : α → α → Bool) :
    ∀ items : List α, items.eraseDupsBy same ⊆ items
  | [] => List.Subset.refl _
  | item :: items => by
    rw [List.eraseDupsBy_cons]
    have others := eraseDupsBy_subset same (items.filter fun other => same other item = false)
    exact List.cons_subset_cons item (List.Subset.trans others List.filter_sublist.subset)
termination_by items => items.length
decreasing_by exact Nat.lt_succ_of_le (List.length_filter_le _ _)

theorem nodup_eraseDupsBy {α : Type} {same : α → α → Bool} (self : ∀ a, same a a = true) :
    ∀ items : List α, (items.eraseDupsBy same).Nodup
  | [] => List.nodup_nil
  | item :: items => by
    rw [List.eraseDupsBy_cons, List.nodup_cons]
    refine ⟨fun mem => ?_,
      nodup_eraseDupsBy self (items.filter fun other => same other item = false)⟩
    have other := List.of_mem_filter (eraseDupsBy_subset same _ mem)
    rw [decide_eq_true_eq, self item] at other
    cases other
termination_by items => items.length
decreasing_by exact Nat.lt_succ_of_le (List.length_filter_le _ _)

/-- The scenes visited are of one story. -/
theorem told (h : route.Charted content) : ∃ story, content.story route.story = .ok story ∧
    route.visited ≠ [] ∧ ∀ id ∈ route.visited, story.hasScene id = true := by
  have last : route.scene ∈ route.visited := List.mem_of_getLast? h.last
  obtain ⟨scene, found⟩ := h.known _ last
  obtain ⟨story, isStory, -⟩ := Repository.mem_of_scene found
  refine ⟨story, isStory, List.ne_nil_of_mem last, fun id mem => ?_⟩
  obtain ⟨other, isOther⟩ := h.known id mem
  rw [Repository.scene, Result.bind_of_ok isStory] at isOther
  unfold Story.hasScene
  rw [Repository.record_of_find isOther]
  rfl

/-- No more scenes were visited than there are. -/
theorem distinct_le (h : route.Charted content) :
    ∃ total, content.sceneCount route.story = .ok total ∧
      (route.visited.eraseDupsBy Document.sameKey).length ≤ total := by
  obtain ⟨story, isStory, -, known⟩ := h.told
  have within : route.visited.eraseDupsBy Document.sameKey ⊆ story.scenes.map Scene.id := by
    intro id mem
    have visited := eraseDupsBy_subset Document.sameKey _ mem
    obtain ⟨scene, found⟩ := Option.isSome_iff_exists.1 (known id visited)
    have same : scene.id = id := by simpa using List.find?_some found
    exact List.mem_map.2 ⟨scene, List.mem_of_find?_eq_some found, same⟩
  refine ⟨story.scenes.length, ?_, ?_⟩
  · rw [Repository.sceneCount, Result.bind_of_ok isStory]
    rfl
  · have self (id : Document) : id.sameKey id = true := by
      rw [Document.sameKey, beq_self_eq_true, Bool.true_or]
    have fewer := (List.subperm_of_subset (nodup_eraseDupsBy self _) within).length_le
    rwa [List.length_map] at fewer

end Charted

end Route

namespace GameState

def route (state : GameState) : Route :=
  ⟨state.storyId, state.currentSceneId, state.progress.scenesVisited⟩

theorem route_of_standing {state other : GameState} (h : state.standing = other.standing) :
    state.route = other.route :=
  congrArg (fun standing : Standing =>
    Route.mk standing.story standing.scene standing.progress.scenesVisited) h

/-- A state that was written and read again has been to the same scenes. -/
theorem route_of_written {state loaded : GameState} {now : Instant}
    (read : ofDocument now state.toDocument = .ok loaded) : loaded.route = state.route := by
  obtain ⟨fields, isObject, parts⟩ := ReadFrom.of_ofDocument read
  cases isObject
  have progress : Progress.ofDocument now state.progress.toDocument = .ok loaded.progress :=
    parts.progress
  rw [Progress.ofDocument_toDocument_eq] at progress
  obtain ⟨choices, -, tells⟩ := Result.ok_of_bind progress
  have visited : loaded.progress.scenesVisited = state.progress.scenesVisited := by
    rw [← Except.ok.inj tells]
  unfold route
  rw [parts.storyId, parts.currentSceneId, visited]
  rfl

end GameState

/-! ## Turns that stay where they are -/

/-- What there is to play, where the game has been, and the games that are saved. -/
def Sitting.itinerary (s : Sitting) : Repository × Option Route × SaveStore :=
  (s.engine.content, s.engine.state.map GameState.route, s.world.store)

namespace Turn

variable {α : Type}

abbrev Unmoved (turn : Turn α) : Prop :=
  Confined Sitting.itinerary AnyFault turn

theorem unmoved_of_reads {turn : Turn α} (h : Confined (fun s => s) AnyFault turn) : Unmoved turn :=
  h.through fun _ _ same => congrArg Sitting.itinerary same

theorem modifyEngine_unmoved {change : Engine → Engine}
    (h : ∀ engine, ((change engine).content, (change engine).state) =
      (engine.content, engine.state)) : Unmoved (modifyEngine change) := by
  refine .modify fun s => ?_
  exact congrArg (fun parts : Repository × Option GameState =>
    (parts.1, parts.2.map GameState.route, s.world.store)) (h s.engine)

theorem untimed_unmoved {change : Engine → Engine}
    (h : ∀ engine, (change engine).untimed = engine.untimed) : Unmoved (modifyEngine change) :=
  modifyEngine_unmoved fun engine =>
    (congrArg (fun engine : Engine => (engine.content, engine.state)) (h engine) :)

theorem modifyState_unmoved {change : GameState → GameState}
    (h : ∀ state, (change state).route = state.route) : Unmoved (modifyState change) :=
  .modify fun s => Prod.ext rfl (Prod.ext (map_modified h s.engine.state) rfl)

theorem modifyWorld_unmoved {change : World → World} (h : ∀ world, (change world).store = world.store) :
    Unmoved (modifyWorld change) :=
  .modify fun s => Prod.ext rfl (Prod.ext rfl (h s.world))

theorem publish_unmoved (event : Event) : Unmoved (publish event) :=
  .bind confined_now fun _ => modifyEngine_unmoved fun _ => rfl

theorem play_unmoved (call : AudioCall) : Unmoved (play call) :=
  modifyEngine_unmoved fun _ => rfl

theorem report_unmoved (operation : String) (fault : Fault) : Unmoved (report operation fault) :=
  publish_unmoved _

theorem reject_unmoved (operation : String) (fault : Fault) :
    Unmoved (reject operation fault : Turn α) :=
  .bind (report_unmoved _ _) fun _ => .throw trivial

theorem reporting_unmoved (operation : String) {turn : Turn α} (h : Unmoved turn) :
    Unmoved (reporting operation turn) :=
  confined_reporting operation h publish_unmoved

theorem onStage_unmoved {action : Action α} (h : Confined Stage.backdrop AnyFault action) :
    Unmoved (onStage action) := by
  refine .intro fun s => ?_
  cases isState : s.engine.state with
  | none =>
    rw [outcome_onStage_of_none isState]
    exact ⟨rfl, Result.anyFault _⟩
  | some state =>
    rw [outcome_onStage_of_some isState]
    have standing : (after action (s.stage state)).state.standing = state.standing :=
      congrArg Prod.fst (h.keeps (s.stage state))
    refine ⟨Prod.ext rfl (Prod.ext ?_ rfl), Result.anyFault _⟩
    change some (after action (s.stage state)).state.route = s.engine.state.map GameState.route
    rw [isState, GameState.route_of_standing standing]
    rfl

theorem inFront_unmoved {action : Action α} (h : InFront action) : Unmoved (onStage action) :=
  onStage_unmoved (h.weaken fun _ _ => trivial)

/-- To count a visit is not to move. -/
theorem counting_unmoved : Counting (Keeps Sitting.itinerary) where
  scores change _ :=
    (modifyState_unmoved fun state => (rfl : (state.withScores (change state)).route = _)).keeps
  tells event _ := (publish_unmoved event).keeps
  plays call := (play_unmoved call).keeps

theorem checkAchievements_unmoved : Unmoved checkAchievements :=
  ⟨counting_unmoved.checkAchievements, fun _ => Result.anyFault _⟩

theorem startTimers_unmoved : Unmoved startTimers :=
  .bind confined_world fun world => untimed_unmoved fun engine =>
    engine.untimed_startTimers world.elapsed

theorem stopTimers_unmoved : Unmoved stopTimers :=
  modifyEngine_unmoved fun _ => rfl

theorem setRunning_unmoved : Unmoved setRunning :=
  .bind (modifyEngine_unmoved fun _ => rfl) fun _ => startTimers_unmoved

theorem approach_unmoved (id : Document) (mode : EntryMode) : Unmoved (approach id mode) := by
  have swept : Unmoved sweep :=
    .bind confined_now fun now => inFront_unmoved (TimedEffect.expire_inFront now)
  exact .bind swept fun _ => unmoved_of_reads (findScene_reads id mode)

theorem prepareScene_unmoved (scene : Scene) : Unmoved (prepareScene scene) :=
  (prepareScene_confined scene).through fun _ _ same => (congrArg Sitting.itinerary same :)

theorem settleIn_unmoved (id : Document) (mode : EntryMode) (scene : Scene)
    (presented : PresentedScene) : Unmoved (settleIn id mode scene presented) := by
  have counted : Unmoved (countVisit id presented) :=
    ⟨counting_unmoved.countVisit id presented, fun _ => Result.anyFault _⟩
  refine .bind counted fun _ => .branch (.bind confined_world fun world => ?_) (.pure _)
  refine .bind (modifyEngine_unmoved fun engine => ?_) fun _ => .pure _
  have armed := Engine.untimed_arm { engine with delayed := scene.timeEffects } world.elapsed
  exact (congrArg (fun engine : Engine => (engine.content, engine.state)) armed :)

theorem commit_unmoved (id : Document) : Unmoved (commit id) := by
  refine .bind (unmoved_of_reads (weigh_reads id)) fun weighed => ?_
  refine .bind (inFront_unmoved weighed.2.1.effects.process_inFront) fun effects => ?_
  refine .bind (.bind confined_now fun now => ?_) fun _ => .pure _
  exact modifyState_unmoved fun _ => rfl

end Turn

/-! ## Turns that go on -/

/-- The game, if there is one, has a charted route. -/
def Sitting.Charted (s : Sitting) : Prop :=
  ∀ state, s.engine.state = some state → state.route.Charted s.engine.content

/-- Whatever game can be loaded from a slot has a charted route. -/
def SaveStore.Charts (store : SaveStore) (content : Repository) (slot : String) : Prop :=
  ∀ now state, store.load now slot = .ok state → state.route.Charted content

/-- From one sitting to another the route stays charted, and slots give what they gave or games
whose routes are charted. -/
structure Travelled (s t : Sitting) : Prop where
  content : t.engine.content = s.engine.content
  charted : t.Charted
  slots : ∀ slot, (∀ now, t.world.store.load now slot = s.world.store.load now slot) ∨
    t.world.store.Charts s.engine.content slot

def Sitting.Journeys (s t : Sitting) : Prop :=
  s.Charted → Travelled s t

namespace Sitting

variable {s t : Sitting}

theorem Charted.of_route (h : s.Charted) (content : t.engine.content = s.engine.content)
    (route : t.engine.state.map GameState.route = s.engine.state.map GameState.route) :
    t.Charted := by
  intro state isState
  rw [isState] at route
  obtain ⟨other, isOther, same⟩ := Option.map_eq_some_iff.1 route.symm
  rw [content, ← same]
  exact h other isOther

theorem Journeys.of_itinerary (h : t.itinerary = s.itinerary) : s.Journeys t := by
  have content : t.engine.content = s.engine.content := congrArg Prod.fst h
  have route : t.engine.state.map GameState.route = s.engine.state.map GameState.route :=
    congrArg (fun itinerary => itinerary.2.1) h
  have store : t.world.store = s.world.store := congrArg (fun itinerary => itinerary.2.2) h
  intro charted
  refine ⟨content, charted.of_route content route, fun slot => .inl fun now => ?_⟩
  rw [store]

instance : Std.Refl Journeys :=
  ⟨fun _ => .of_itinerary rfl⟩

theorem Journeys.trans {u : Sitting} (h : s.Journeys t) (h' : t.Journeys u) : s.Journeys u := by
  intro charted
  have first := h charted
  have next := h' first.charted
  refine ⟨next.content.trans first.content, next.charted, fun slot => ?_⟩
  rcases next.slots slot with kept | fresh
  · rcases first.slots slot with kept' | fresh'
    · exact .inl fun now => (kept now).trans (kept' now)
    · exact .inr fun now state loads => fresh' now state ((kept now).symm.trans loads)
  · exact .inr (first.content ▸ fresh)

instance : Trans Journeys Journeys Journeys :=
  ⟨.trans⟩

end Sitting

namespace Turn

variable {α : Type}

theorem Unmoved.journeys {turn : Turn α} (h : Unmoved turn) : Leads Sitting.Journeys turn :=
  fun s => .of_itinerary (h.keeps s)

theorem reporting_journeys {operation : String} {turn : Turn α} {s : Sitting}
    (h : s.Journeys (after turn s)) : s.Journeys (after (reporting operation turn) s) := by
  rw [after] at h ⊢
  rcases ended : outcome turn s with ⟨r, s'⟩
  rw [ended] at h
  cases r with
  | ok a => rwa [outcome_reporting_of_ok ended]
  | error fault =>
    rw [outcome_reporting_of_error ended]
    refine h.trans (.of_itinerary ?_)
    unfold Sitting.blame
    split <;> rfl

/-! ### Saves -/

/-- Hands the game to the store, and takes the store that is left. -/
def stow (now : Instant) (name : Document) (autosave : Bool) : Turn (Result SaveSlot) := do
  let { issued, store, .. } ← world
  let (result, issued, store) := store.save now issued (← state) name autosave
  modifyWorld fun world => { world with issued, store }
  pure result

theorem save_eq (name : Document) (autosave : Bool) :
    save name autosave = (do
      let previous := (← state).progress.lastSaved
      let now ← now
      setLastSaved (Timestamp.text now)
      modifyState fun state => state.touch now
      match ← stow now name autosave with
      | .ok slot =>
        publish (.gameSaved slot.toDocument autosave)
        pure slot
      | .error fault =>
        setLastSaved previous
        throw (savingFault fault)) := by
  unfold save stow
  refine bind_congr fun state => bind_congr fun now => bind_congr fun _ => bind_congr fun _ => ?_
  rw [bind_assoc]
  refine bind_congr fun world => ?_
  rw [bind_assoc]
  refine bind_congr fun marked => ?_
  rw [bind_assoc]
  exact bind_congr fun _ => (pure_bind _ _).symm

theorem outcome_stow_of_none {s : Sitting} (nothing : s.engine.state = none) (now : Instant)
    (name : Document) (autosave : Bool) :
    outcome (stow now name autosave) s = (.error (.noField "NoneType" "state"), s) := by
  have isWorld : outcome world s = (.ok s.world, s) := rfl
  unfold stow
  rw [outcome_bind_of_ok isWorld]
  dsimp only
  rw [outcome_bind_of_error (by rw [outcome_state, nothing])]

theorem outcome_stow_of_some {s : Sitting} {state : GameState}
    (playing : s.engine.state = some state) (now : Instant) (name : Document) (autosave : Bool) :
    outcome (stow now name autosave) s =
      let stored := s.world.store.save now s.world.issued state name autosave
      (.ok stored.1, { s with world := { s.world with issued := stored.2.1, store := stored.2.2 } }) := by
  have isWorld : outcome world s = (.ok s.world, s) := rfl
  unfold stow
  rw [outcome_bind_of_ok isWorld]
  dsimp only
  rw [outcome_bind_of_ok (outcome_state_of_some playing)]
  rfl

theorem stow_journeys (now : Instant) (name : Document) (autosave : Bool) :
    Leads Sitting.Journeys (stow now name autosave) := by
  intro s
  cases isState : s.engine.state with
  | none =>
    rw [after, outcome_stow_of_none isState]
    exact Std.Refl.refl s
  | some state =>
    rw [after, outcome_stow_of_some isState]
    intro charted
    refine ⟨rfl, charted, fun slot => ?_⟩
    rcases s.world.store.load_after_save now s.world.issued state name autosave slot with
      kept | written
    · exact .inl kept
    · refine .inr fun later loaded loads => ?_
      rw [GameState.route_of_written (written later loaded loads)]
      exact charted state isState

theorem setLastSaved_journeys (lastSaved : Document) :
    Leads Sitting.Journeys (setLastSaved lastSaved) := by
  have unmoved : Unmoved (setLastSaved lastSaved) := modifyState_unmoved fun _ => rfl
  exact unmoved.journeys

theorem save_journeys (name : Document) (autosave : Bool) :
    Leads Sitting.Journeys (save name autosave) := by
  have touches (now : Instant) : Unmoved (modifyState fun state => state.touch now) :=
    modifyState_unmoved fun _ => rfl
  rw [save_eq]
  refine .bind (.of_reads (confined_state trivial)) fun _ => .bind (.of_reads confined_now) fun now => ?_
  refine .bind (setLastSaved_journeys _) fun _ => .bind (touches now).journeys fun _ => ?_
  refine .bind (stow_journeys now name autosave) fun result => ?_
  cases result with
  | ok slot => exact .bind (publish_unmoved _).journeys fun _ => .pure _
  | error fault => exact .bind (setLastSaved_journeys _) fun _ => .throw _

theorem autosave_journeys : Leads Sitting.Journeys autosave := by
  refine .bind (.of_reads confined_engine) fun engine => .branch ?_ (.pure false)
  refine .tryCatch (.bind (save_journeys _ _) fun _ => .pure true) fun fault => ?_
  exact .bind (report_unmoved _ _).journeys fun _ => .pure false

/-! ### Entries -/

theorem outcome_moveTo (id : Document) (mode : EntryMode) (s : Sitting) :
    outcome (moveTo id mode) s = (.ok (), { s with engine := { s.engine.forgetDelayed with
      state := s.engine.state.map fun state => { state with
        currentSceneId := id
        progress := { state.progress with
          scenesVisited := (state.route.moved id mode.recordVisit).visited } } } }) := by
  unfold moveTo
  rw [outcome_bind_of_ok (outcome_modifyEngine _ _), outcome_bind_of_ok (outcome_modifyState _ _)]
  cases counts : mode.recordVisit with
  | true =>
    rw [if_pos rfl, outcome_modifyState]
    dsimp only
    rw [Option.map_map]
    rfl
  | false => rfl

/-- The game moves to a scene of its story; where the visit does not count, it stands there
already. -/
theorem moveTo_journeys {id : Document} {mode : EntryMode} {s : Sitting} {state : GameState}
    {scene : Scene} (isState : s.engine.state = some state)
    (found : s.engine.content.scene state.storyId id = .ok scene)
    (stands : mode.recordVisit = true ∨ state.currentSceneId = id) :
    s.Journeys (after (moveTo id mode) s) := by
  rw [after, outcome_moveTo]
  intro charted
  refine ⟨rfl, fun left isLeft => ?_, fun slot => .inl fun now => rfl⟩
  obtain ⟨before, isBefore, rfl⟩ := Option.map_eq_some_iff.1 isLeft
  obtain rfl : state = before := Option.some.inj (isState.symm.trans isBefore)
  rcases stands with visits | there
  · rw [visits]
    exact (charted state isState).visit found
  · subst there
    cases counts : mode.recordVisit with
    | true => exact (charted state isState).visit found
    | false => exact charted state isState

theorem arrive_journeys {id : Document} {mode : EntryMode} {s : Sitting} {state : GameState}
    {scene : Scene} (isState : s.engine.state = some state)
    (found : s.engine.content.scene state.storyId id = .ok scene)
    (stands : mode.recordVisit = true ∨ state.currentSceneId = id) :
    s.Journeys (after (arrive id mode scene) s) := by
  have applies : Unmoved (onStage scene.effects.process) :=
    inFront_unmoved scene.effects.process_inFront
  have prepares := (prepareScene_unmoved scene).journeys
  refine Leads.after_bind ?_ fun shown => ?_
  · refine Leads.after_bind (moveTo_journeys isState found stands) fun _ => .branch ?_ prepares
    exact .bind applies.journeys fun _ => prepares
  · have shows : Unmoved (modifyEngine fun engine =>
        { engine with scene := some shown.1, presentedAt := some shown.2 }) :=
      modifyEngine_unmoved fun _ => rfl
    exact .bind shows.journeys fun _ => .pure _

theorem enterScene_journeys {id : Document} {mode : EntryMode} {s : Sitting}
    (stands : mode.recordVisit = true ∨
      ∀ state, s.engine.state = some state → state.currentSceneId = id) :
    s.Journeys (after (enterScene id mode) s) := by
  rw [enterScene_eq, after]
  rcases approached : outcome (approach id mode) s with ⟨r, s₁⟩
  have kept := ((approach_unmoved id mode).of_outcome approached).1
  cases r with
  | error fault =>
    rw [outcome_bind_of_error approached]
    exact .of_itinerary kept
  | ok scene =>
    rw [outcome_bind_of_ok approached]
    refine Sitting.Journeys.trans (.of_itinerary kept) ?_
    obtain ⟨state, isState, found⟩ := scene_of_approach approached
    have same : s.engine.state.map GameState.route = some state.route := by
      have route : s₁.engine.state.map GameState.route = s.engine.state.map GameState.route :=
        congrArg (fun itinerary => itinerary.2.1) kept
      rw [← route, isState]
      rfl
    obtain ⟨first, isFirst, same⟩ := Option.map_eq_some_iff.1 same
    have scene₁ : first.currentSceneId = state.currentSceneId := congrArg Route.scene same
    have stands₁ : mode.recordVisit = true ∨ state.currentSceneId = id :=
      stands.imp_right fun there => scene₁ ▸ there first isFirst
    refine Leads.after_bind (arrive_journeys isState found stands₁) fun presented => ?_
    exact (settleIn_unmoved id mode scene presented).journeys

end Turn

end InteractiveFiction
