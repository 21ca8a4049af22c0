import InteractiveFiction.Proofs.Engine.Achievements
import InteractiveFiction.Proofs.Engine.Scores
import InteractiveFiction.Proofs.Engine.Stance

/-!
What a game keeps on record, and turns along a relation of records.

* `Sitting.record`: the story, the achievements and the choices that are written down in the state
  of the game, beside what was announced that is not of bundles.
* `Unrecorded turn`: a turn that leaves the record alone.  To look for a scene, to show it, to apply
  effects and to set timers is so.
* `Recording rel`: a relation to which only the record matters, and which what is announced by the
  way, the errors of what an operation does besides, and the check of achievements go along.  Most
  of what is done with an engine then goes along it, and if all errors that are announced do, every
  operation but a choice that stays in the game (`Recording.step`).
-/

set_option autoImplicit false

namespace InteractiveFiction

open Course

/-- What is written down of a game. -/
structure Annals where
  story : Document
  achievements : List Document
  choices : List ChoiceRecord

def GameState.annals (state : GameState) : Annals :=
  ⟨state.storyId, state.progress.achievementsUnlocked, state.progress.choicesMade⟩

theorem GameState.annals_of_standing {state other : GameState}
    (h : state.standing = other.standing) : state.annals = other.annals :=
  congrArg (fun standing : Standing => Annals.mk standing.story
    standing.progress.achievementsUnlocked standing.progress.choicesMade) h

/-- What there is to play, what is written down of the game, and what was announced that is not of
bundles. -/
def Sitting.record (s : Sitting) : Repository × Option Annals × List EventRecord :=
  (s.engine.content, s.engine.state.map GameState.annals, announcements s.engine.published)

/-- The sitting once a game was found, before its scene is entered. -/
def Sitting.found (s : Sitting) (state : GameState) : Sitting :=
  { s with engine := { s.engine with state := some state }.resetScene }

theorem Sitting.announcements_of_record {s t : Sitting} (h : t.record = s.record) :
    announcements t.engine.published = announcements s.engine.published :=
  congrArg (fun record => record.2.2) h

namespace Event

theorem name_ne_of_isOfBundle {event : Event} {name : String} (h : event.isOfBundle = true)
    (other : bundleNames.contains name = false) : event.name ≠ name := by
  rintro rfl
  rw [isOfBundle, other] at h
  cases h

/-- The names under which turns announce what is told again elsewhere: by the state, or by the fault
that an operation ends with. -/
def recordedNames : List String := ["achievementUnlocked", "choiceMade", "gameEnded", "error"]

/-- What is announced by the way. -/
def isRoutine (event : Event) : Bool :=
  !recordedNames.contains event.name

end Event

namespace Sitting

/-- What was announced under a name. -/
def announced (s : Sitting) (name : String) : List Event :=
  (s.engine.published.map EventRecord.event).filter fun event => event.name == name

variable {s t : Sitting} {name : String} {event : Event}

theorem announced_announce (s : Sitting) (event : Event) :
    (s.announce event).announced event.name = s.announced event.name ++ [event] := by
  simp [announced, announce]

theorem announced_announce_of_ne (h : event.name ≠ name) (s : Sitting) :
    (s.announce event).announced name = s.announced name := by
  simp [announced, announce, h]

theorem announced_unlocking (h : "achievementUnlocked" ≠ name) (s : Sitting)
    (achievements : List Achievement) (played : List AudioCall) :
    (s.unlocking achievements played).announced name = s.announced name := by
  simp [announced, unlocking, Achievement.announcement, Event.achievementUnlocked, h]

/-- No bundle announces anything under other names than its own. -/
theorem announced_of_record (h : t.record = s.record)
    (other : Event.bundleNames.contains name = false) : t.announced name = s.announced name := by
  have among : ∀ u : Sitting, u.announced name =
      ((announcements u.engine.published).map EventRecord.event).filter (·.name == name) := by
    intro u
    unfold announced announcements
    rw [List.filter_map, List.filter_map, List.filter_filter]
    refine congrArg _ (List.filter_congr fun record _ => ?_)
    cases ofBundle : record.event.isOfBundle with
    | false => simp
    | true => simp [Event.name_ne_of_isOfBundle ofBundle other]
  rw [among, among, announcements_of_record h]

end Sitting

namespace Turn

variable {α : Type}

/-! ## Turns that leave the record alone -/

abbrev Unrecorded (turn : Turn α) : Prop :=
  Confined Sitting.record AnyFault turn

theorem unrecorded_of_reads {turn : Turn α} (h : Confined (fun s => s) AnyFault turn) :
    Unrecorded turn :=
  h.through fun _ _ same => congrArg Sitting.record same

theorem modifyEngine_unrecorded {change : Engine → Engine}
    (h : ∀ engine, ((change engine).content, (change engine).state, (change engine).published) =
      (engine.content, engine.state, engine.published)) : Unrecorded (modifyEngine change) := by
  refine .modify fun s => ?_
  exact congrArg (fun parts : Repository × Option GameState × List EventRecord =>
    (parts.1, parts.2.1.map GameState.annals, announcements parts.2.2)) (h s.engine)

theorem modifyState_unrecorded {change : GameState → GameState}
    (h : ∀ state, (change state).annals = state.annals) : Unrecorded (modifyState change) :=
  .modify fun s => Prod.ext rfl (Prod.ext (map_modified h s.engine.state) rfl)

theorem modifyWorld_unrecorded (change : World → World) : Unrecorded (modifyWorld change) :=
  .modify fun _ => rfl

theorem play_unrecorded (call : AudioCall) : Unrecorded (play call) :=
  modifyEngine_unrecorded fun _ => rfl

theorem onStage_unrecorded {action : Action α} (h : Confined Stage.backdrop AnyFault action) :
    Unrecorded (onStage action) := by
  refine .intro fun s => ?_
  cases hs : s.engine.state with
  | none =>
    rw [outcome_onStage_of_none hs]
    exact ⟨rfl, Result.anyFault _⟩
  | some state =>
    rw [outcome_onStage_of_some hs]
    have standing : (after action (s.stage state)).state.standing = state.standing :=
      congrArg Prod.fst (h.keeps (s.stage state))
    have told : announcements (after action (s.stage state)).published =
        announcements s.engine.published := congrArg Prod.snd (h.keeps (s.stage state))
    refine ⟨Prod.ext rfl (Prod.ext ?_ told), Result.anyFault _⟩
    change some (after action (s.stage state)).state.annals = s.engine.state.map GameState.annals
    rw [hs, GameState.annals_of_standing standing]
    rfl

theorem inFront_unrecorded {action : Action α} (h : InFront action) : Unrecorded (onStage action) :=
  onStage_unrecorded (h.weaken fun _ _ => trivial)

theorem requireStatus_reads (status : EngineStatus) (operation : String) :
    Confined (fun s => s) AnyFault (requireStatus status operation) :=
  .bind confined_engine fun _ => .branch (.throw trivial) (.pure ())

theorem stopTimers_unrecorded : Unrecorded stopTimers :=
  modifyEngine_unrecorded fun _ => rfl

theorem untimed_unrecorded {change : Engine → Engine}
    (h : ∀ engine, (change engine).untimed = engine.untimed) : Unrecorded (modifyEngine change) :=
  modifyEngine_unrecorded fun engine =>
    (congrArg (fun engine : Engine => (engine.content, engine.state, engine.published))
      (h engine) :)

theorem startTimers_unrecorded : Unrecorded startTimers :=
  .bind confined_world fun world => untimed_unrecorded fun engine =>
    engine.untimed_startTimers world.elapsed

theorem setRunning_unrecorded : Unrecorded setRunning :=
  .bind (modifyEngine_unrecorded fun _ => rfl) fun _ => startTimers_unrecorded

theorem setLastSaved_unrecorded (lastSaved : Document) : Unrecorded (setLastSaved lastSaved) :=
  modifyState_unrecorded fun _ => rfl

/-! ### Scenes -/

theorem approach_unrecorded (id : Document) (mode : EntryMode) : Unrecorded (approach id mode) := by
  have swept : Unrecorded sweep :=
    .bind confined_now fun now => inFront_unrecorded (TimedEffect.expire_inFront now)
  exact .bind swept fun _ => unrecorded_of_reads (findScene_reads id mode)

theorem arrive_unrecorded (id : Document) (mode : EntryMode) (scene : Scene) :
    Unrecorded (arrive id mode scene) := by
  have moves : Unrecorded (moveTo id mode) := by
    refine .bind (modifyEngine_unrecorded fun _ => rfl) fun _ => ?_
    refine .bind (modifyState_unrecorded fun _ => rfl) fun _ => ?_
    exact .branch (modifyState_unrecorded fun _ => rfl) (.pure ())
  have prepares : Unrecorded (prepareScene scene) :=
    (prepareScene_confined scene).through fun _ _ same => (congrArg Sitting.record same :)
  have reaches : Unrecorded (reach id mode scene) := by
    refine .bind moves fun _ => .branch (.bind ?_ fun _ => prepares) prepares
    exact inFront_unrecorded scene.effects.process_inFront
  exact .bind reaches fun shown => .bind (modifyEngine_unrecorded fun _ => rfl) fun _ => .pure _

/-! ## Along a relation -/

/-- The errors that are announced of what an operation does besides; it does not fail by them. -/
def besides : List String := ["end_game", "autosave", "scene_time_effects"]

structure Recording (rel : Sitting → Sitting → Prop) : Prop where
  keeps : ∀ s t : Sitting, t.record = s.record → rel s t
  tells : ∀ event : Event, event.isRoutine = true → Leads rel (publish event)
  fails : ∀ operation ∈ besides, ∀ fault, Leads rel (report operation fault)
  checks : Leads rel checkAchievements

theorem publish_keepsAnnounced {event : Event} {name : String} (h : event.name ≠ name) :
    Leads (Keeps fun s : Sitting => s.announced name) (publish event) :=
  fun s => s.announced_announce_of_ne h

/-- Such turns announce nothing under names that are kept for choices and ends. -/
theorem recording_announced {name : String} (recorded : Event.recordedNames.contains name = true)
    (ofNoBundle : Event.bundleNames.contains name = false) (noError : "error" ≠ name)
    (noAchievement : "achievementUnlocked" ≠ name) :
    Recording (Keeps fun s : Sitting => s.announced name) where
  keeps _ _ same := Sitting.announced_of_record same ofNoBundle
  tells event routine := by
    refine publish_keepsAnnounced fun named => ?_
    rw [Event.isRoutine, named, recorded] at routine
    cases routine
  fails operation _ fault := publish_keepsAnnounced noError
  checks := leads_checkAchievements fun {s} _ _ unlocked _ _ _ _ played =>
    s.announced_unlocking noAchievement unlocked played

namespace Recording

variable {rel : Sitting → Sitting → Prop}

theorem along (h : Recording rel) {turn : Turn α} (unrecorded : Unrecorded turn) : Leads rel turn :=
  fun s => h.keeps s _ (unrecorded.keeps s)

variable [Std.Refl rel] [Trans rel rel rel]

/-! ### Scenes -/

theorem updateProgress (h : Recording rel) : Leads rel updateProgress := by
  refine .bind (.of_reads (confined_state trivial)) fun state => ?_
  refine .bind (.of_reads confined_engine) fun engine => ?_
  refine .bind (.of_reads (confined_lift (Result.anyFault _))) fun total => ?_
  refine .bind (.of_reads (confined_lift (Result.anyFault _))) fun visited => ?_
  refine .branch (.bind ?_ fun _ => h.tells (.progressUpdated _) rfl) (.pure ())
  exact h.along (modifyState_unrecorded fun _ => rfl)

theorem settleIn (h : Recording rel) (id : Document) (mode : EntryMode) (scene : Scene)
    (presented : PresentedScene) : Leads rel (settleIn id mode scene presented) := by
  have counts : Leads rel (countVisit id presented) :=
    .bind h.updateProgress fun _ => .bind h.checks fun _ => h.tells _ rfl
  refine .bind counts fun _ => .branch (.bind (.of_reads confined_world) fun world => ?_) (.pure _)
  refine .bind (h.along (modifyEngine_unrecorded fun engine => ?_)) fun _ => .pure _
  have armed := Engine.untimed_arm { engine with delayed := scene.timeEffects } world.elapsed
  exact (congrArg (fun engine : Engine => (engine.content, engine.state, engine.published)) armed :)

theorem enterScene (h : Recording rel) (id : Document) (mode : EntryMode) :
    Leads rel (enterScene id mode) := by
  rw [enterScene_eq]
  refine .bind (h.along (approach_unrecorded id mode)) fun scene => ?_
  refine .bind (h.along (arrive_unrecorded id mode scene)) fun presented => ?_
  exact h.settleIn id mode scene presented

/-! ### Saves -/

theorem save (h : Recording rel) (name : Document) (autosave : Bool) :
    Leads rel (save name autosave) := by
  refine .bind (.of_reads (confined_state trivial)) fun _ => .bind (.of_reads confined_now) fun now => ?_
  refine .bind (h.along (setLastSaved_unrecorded _)) fun _ => ?_
  refine .bind (h.along (modifyState_unrecorded fun _ => rfl)) fun _ => ?_
  refine .bind (.of_reads confined_world) fun world => ?_
  refine .bind (.of_reads (confined_state trivial)) fun state => ?_
  dsimp only
  refine .bind (h.along (modifyWorld_unrecorded _)) fun _ => ?_
  split
  · exact .bind (h.tells _ (by cases autosave <;> rfl)) fun _ => .pure _
  · exact .bind (h.along (setLastSaved_unrecorded _)) fun _ => .throw _

theorem autosave (h : Recording rel) : Leads rel autosave := by
  refine .bind (.of_reads confined_engine) fun engine => .branch ?_ (.pure false)
  refine .tryCatch (.bind (h.save _ _) fun _ => .pure true) fun fault => ?_
  exact .bind (h.fails _ (by decide) fault) fun _ => .pure false

/-! ### Choices -/

/-- What was decided before a choice is made, and its effects, are on no record yet. -/
theorem commit (h : Recording rel)
    (records : ∀ id scene text, Leads rel (recordChoice id scene text)) (id : Document) :
    Leads rel (commit id) := by
  refine .bind (.of_reads (weigh_reads id)) fun weighed => ?_
  refine .bind (h.along (inFront_unrecorded weighed.2.1.effects.process_inFront)) fun effects => ?_
  exact .bind (records _ _ _) fun _ => .pure _

theorem endGame (h : Recording rel)
    (ends : ∀ id visited achievements, Leads rel (publish (.gameEnded id visited achievements))) :
    Leads rel endGame := by
  refine .bind (.of_reads confined_engine) fun engine => .branch ?_ (.pure ())
  refine .bind (h.along (modifyEngine_unrecorded fun _ => rfl)) fun _ => ?_
  refine .bind h.checks fun _ => ?_
  refine .bind (.tryCatch (.bind (h.save _ _) fun _ => .pure ()) fun fault => ?_) fun _ => ?_
  · exact h.fails _ (by decide) fault
  · refine .bind (h.along (play_unrecorded _)) fun _ => ?_
    refine .bind (.of_reads (confined_state trivial)) fun state => ?_
    exact .bind (.of_reads (confined_lift (Result.anyFault _))) fun visited => ends _ _ _

end Recording

/-! ### Items, characters, bundles and settings -/

/-- What using an item comes to, whoever is told that it failed. -/
def attemptUse (id : Document) : Turn ItemUse := do
  requireStatus .running "use_item"
  let use ← onStage (Inventory.useItem id)
  if use.success && !use.isIdle then
    let _ ← onStage use.takeEffect
    checkAchievements
  pure use

/-- What meeting a character comes to, whoever is told that it failed. -/
def attemptInteraction (character kind : Document) : Turn Interaction := do
  requireStatus .running "interact"
  let (interaction, cast) ← onStage ((← engine).cast.interact character kind)
  modifyEngine fun engine => { engine with cast }
  pure interaction

namespace Recording

variable {rel : Sitting → Sitting → Prop} [Std.Refl rel] [Trans rel rel rel]

theorem attemptUse (h : Recording rel) (id : Document) : Leads rel (attemptUse id) := by
  refine .bind (.of_reads (requireStatus_reads _ _)) fun _ => ?_
  refine .bind (h.along (inFront_unrecorded (Inventory.useItem_inFront id))) fun use => ?_
  refine .branch (.bind ?_ fun _ => .bind h.checks fun _ => .pure use) (.pure use)
  exact h.along (inFront_unrecorded (takeEffect_inFront use))

theorem attemptInteraction (h : Recording rel) (character kind : Document) :
    Leads rel (attemptInteraction character kind) := by
  refine .bind (.of_reads (requireStatus_reads _ _)) fun _ => ?_
  refine .bind (.of_reads confined_engine) fun engine => ?_
  refine .bind (h.along (onStage_unrecorded (interact_keeps _ _ _))) fun _ => ?_
  exact .bind (h.along (modifyEngine_unrecorded fun _ => rfl)) fun _ => .pure _

theorem putSettings (h : Recording rel) (changes : Fields) : Leads rel (putSettings changes) := by
  refine .bind (h.along (modifyState_unrecorded fun _ => rfl)) fun _ => ?_
  refine .bind (.of_reads confined_engine) fun engine => ?_
  have told : Leads rel tellSettings :=
    .bind (.of_reads (confined_state trivial)) fun _ => .bind (h.tells _ rfl) fun _ => .pure _
  refine .branch (.bind (h.along stopTimers_unrecorded) fun _ => ?_) told
  exact .bind (h.along startTimers_unrecorded) fun _ => told

theorem applyBundle (h : Recording rel) (effect : Document) : Leads rel (applyBundle effect) := by
  refine .branch (.pure []) (.bind (.of_reads confined_world) fun world => ?_)
  refine .bind (h.along (modifyWorld_unrecorded _)) fun _ => ?_
  refine .bind (.of_reads (confined_lift (Result.anyFault _))) fun bundle => ?_
  exact h.along (inFront_unrecorded bundle.process_inFront)

/-! ### The life of an engine -/

theorem pauseGame (h : Recording rel) : Leads rel pauseGame := by
  refine .bind (.of_reads confined_engine) fun engine => .branch ?_ (.pure ())
  refine .bind (.of_reads (requireStatus_reads _ _)) fun _ => ?_
  refine .bind (h.along (modifyEngine_unrecorded fun _ => rfl)) fun _ => ?_
  exact .bind (h.along (play_unrecorded _)) fun _ => h.tells _ rfl

theorem resumeGame (h : Recording rel) : Leads rel resumeGame := by
  refine .bind (.of_reads confined_engine) fun engine => .branch ?_ (.pure ())
  refine .bind (.of_reads (requireStatus_reads _ _)) fun _ => ?_
  refine .bind (h.along (modifyEngine_unrecorded fun _ => rfl)) fun _ => ?_
  refine .bind (h.along startTimers_unrecorded) fun _ => ?_
  exact .bind (h.along (play_unrecorded _)) fun _ => h.tells _ rfl

/-! ### The passing of time -/

theorem countPlaytime (h : Recording rel) : Leads rel countPlaytime := by
  have again : Leads rel startPlaytime :=
    .bind (.of_reads confined_world) fun _ => h.along (modifyEngine_unrecorded fun _ => rfl)
  refine .bind (.of_reads confined_engine) fun engine => .branch (.bind ?_ fun _ => again) again
  exact h.along (modifyState_unrecorded fun _ => rfl)

theorem saveByItself (h : Recording rel) : Leads rel saveByItself := by
  have again : Leads rel startAutosave :=
    .bind (.of_reads confined_world) fun world => h.along <| untimed_unrecorded fun engine =>
      engine.untimed_startAutosave world.elapsed
  refine .bind (.of_reads confined_engine) fun engine => .branch (.bind ?_ fun _ => again) again
  exact h.autosave

theorem applyDelayed (h : Recording rel) : Leads rel applyDelayed := by
  refine .bind (.of_reads confined_engine) fun engine => ?_
  split
  · rename_i delayed _
    have applies : Leads rel (do
        let _ ← onStage delayed.effect.process
        checkAchievements) :=
      .bind (h.along (inFront_unrecorded delayed.effect.process_inFront)) fun _ => h.checks
    refine .branch (.bind (h.along (modifyEngine_unrecorded fun _ => rfl)) fun _ => ?_) (.pure ())
    exact .tryCatch applies fun fault => .branch (h.fails _ (by decide) fault) (.pure ())
  · exact .pure ()

theorem fire (h : Recording rel) (timer : Timer) : Leads rel (fire timer) := by
  refine .bind (h.along (modifyEngine_unrecorded fun _ => rfl)) fun _ => ?_
  cases timer.kind with
  | playtime => exact h.countPlaytime
  | autosave => exact h.saveByItself
  | delayedEffects => exact h.applyDelayed

theorem pass (h : Recording rel) (seconds : Float) : Leads rel (pass seconds) := by
  have within (time : Float) (fuel : Nat) : Leads rel (passWithin time fuel) := by
    induction fuel with
    | zero => exact .pure ()
    | succ fuel ih =>
      refine .bind (.of_reads confined_engine) fun engine => ?_
      split
      · refine .bind (h.along (modifyWorld_unrecorded _)) fun _ => ?_
        exact .bind (h.fire _) fun _ => ih
      · exact .pure ()
  refine .bind (.of_reads confined_world) fun world => .bind (.of_reads confined_engine) fun engine => ?_
  exact .bind (within _ _) fun _ => h.along (modifyWorld_unrecorded _)

/-! ### The opening of a game -/

/-- From where a game was found, its opening goes along. -/
theorem opening (h : Recording rel) {opening : Opening} {s t : Sitting} {presented : PresentedScene}
    (opened : outcome opening.turn s = (.ok presented, t)) :
    ∃ state s₁, outcome opening.find s.stopped = (.ok state, s₁) ∧
      rel (s₁.found state) t := by
  obtain ⟨state, s₁, s₂, game, found, entered, rfl⟩ := Opening.entered_of_turn opened
  have enters := (h.enterScene state.currentSceneId opening.mode).of_outcome entered
  have runs : rel s₂ s₂.begun := h.along setRunning_unrecorded s₂
  have told : rel s₂.begun (s₂.begun.announce (opening.announcement game)) :=
    h.tells _ (by cases opening <;> rfl) s₂.begun
  exact ⟨state, s₁, found, Trans.trans (Trans.trans enters runs) told⟩

end Recording

end Turn

/-! ## Operations -/

namespace Operation

/-- Operations that leave the game that is played in its place. -/
def staysIn : Operation → Bool
  | .begin _ | .shutdown => false
  | _ => true

def isChoice : Operation → Bool
  | .choose _ => true
  | _ => false

end Operation

namespace Sitting

/-- Something holds of every operation of a run where it is done. -/
def Throughout (holds : Sitting → Operation → Prop) (s : Sitting) : List Operation → Prop
  | [] => True
  | operation :: operations => holds s operation ∧ (s.step operation).Throughout holds operations

theorem throughout_append {holds : Sitting → Operation → Prop} {s : Sitting}
    {past rest : List Operation} :
    s.Throughout holds (past ++ rest) ↔
      s.Throughout holds past ∧ (s.run past).Throughout holds rest := by
  induction past generalizing s with
  | nil => exact (and_iff_right trivial).symm
  | cons operation past ih =>
    change holds s operation ∧ (s.step operation).Throughout holds (past ++ rest) ↔
      (holds s operation ∧ (s.step operation).Throughout holds past) ∧
        ((s.step operation).run past).Throughout holds rest
    rw [ih, and_assoc]

end Sitting

namespace Turn.Recording

variable {α : Type} {rel : Sitting → Sitting → Prop} [Std.Refl rel] [Trans rel rel rel]

variable (reports : ∀ operation fault, Leads rel (report operation fault))

include reports

theorem reject (operation : String) (fault : Fault) :
    Leads rel (reject operation fault : Turn α) :=
  .bind (reports operation fault) fun _ => .throw fault

omit [Trans rel rel rel] in
theorem blame (s : Sitting) (operation : String) (fault : Fault) :
    rel s (s.blame operation fault) := by
  unfold Sitting.blame
  split
  · exact reports operation fault s
  · exact Std.Refl.refl s

theorem of_reporting {turn : Turn α} {s : Sitting} (goes : rel s (after turn s))
    (operation : String) : rel s (after (Turn.reporting operation turn) s) := by
  rw [after] at goes ⊢
  rcases ended : outcome turn s with ⟨r, s'⟩
  rw [ended] at goes
  cases r with
  | ok a => rwa [outcome_reporting_of_ok ended]
  | error fault =>
    rw [outcome_reporting_of_error ended]
    exact Trans.trans goes (blame reports s' operation fault)

theorem reporting {turn : Turn α} (goes : Leads rel turn) (operation : String) :
    Leads rel (reporting operation turn) :=
  fun s => of_reporting reports (goes s) operation

theorem requireGame (operation : String) : Leads rel (requireGame operation) :=
  .bind (.of_reads confined_engine) fun _ => .branch (reject reports _ _) (.pure ())

theorem updateSettings (h : Recording rel) (changes : Fields) :
    Leads rel (updateSettings changes) := by
  have puts := h.putSettings changes
  rw [updateSettings_eq]
  refine .bind (requireGame reports _) fun _ => ?_
  exact .branch (.bind (reject reports _ _) fun _ => puts) puts

theorem manualSave (h : Recording rel) (name : Document) : Leads rel (manualSave name) :=
  .bind (requireGame reports _) fun _ =>
    .tryCatch (h.save name false) fun _ => reject reports _ _

theorem listSlots : Leads rel listSlots := by
  refine .bind (.of_reads confined_world) fun world => ?_
  split
  · exact .pure _
  · exact .branch (.bind (reports _ _) fun _ => .throw _) (.throw _)

/-- An opening goes along if the change of games does. -/
theorem start (h : Recording rel) {opening : Opening} (replaces : Leads rel opening.replace) :
    Leads rel opening.turn := by
  rw [Opening.turn_eq]
  refine .bind (.bind (.of_reads confined_engine) fun _ => ?_) fun _ => ?_
  · exact .branch (reject reports _ _) (.pure ())
  refine .bind (h.along stopTimers_unrecorded) fun _ => ?_
  refine .bind (reporting reports (.bind replaces fun _ => h.enterScene _ _) _) fun _ => ?_
  refine .bind (h.along setRunning_unrecorded) fun _ => ?_
  refine .bind (.of_reads (confined_state trivial)) fun state => ?_
  exact .bind (h.tells _ (by cases opening <;> rfl)) fun _ => .pure _

/-- All that is done in a game goes along, but for what is chosen. -/
theorem step (h : Recording rel) {operation : Operation} (stays : operation.staysIn = true)
    (unchosen : operation.isChoice = false) (s : Sitting) : rel s (s.step operation) := by
  have leads : ∀ {turn : Turn Unit}, Leads rel turn → rel s (after turn s) := fun goes => goes s
  cases operation with
  | wake =>
    refine leads (.bind (.of_reads confined_engine) fun engine => .branch ?_ (.pure ()))
    exact h.along (modifyEngine_unrecorded fun _ => rfl)
  | pause => exact leads h.pauseGame
  | resume => exact leads h.resumeGame
  | navigate id =>
    refine leads (.bind (reporting reports (.bind ?_ fun _ => h.enterScene id {}) _) fun _ => .pure ())
    exact .of_reads (requireStatus_reads _ _)
  | useItem id =>
    exact leads (.bind (reporting reports (h.attemptUse id) _) fun _ => .pure ())
  | interact character kind =>
    exact leads (.bind (reporting reports (h.attemptInteraction character kind) _) fun _ => .pure ())
  | updateSettings changes =>
    exact leads (.bind (updateSettings reports h changes) fun _ => .pure ())
  | applyBundle effect => exact leads (.bind (h.applyBundle effect) fun _ => .pure ())
  | autosave => exact leads (.bind h.autosave fun _ => .pure ())
  | manualSave name => exact leads (.bind (manualSave reports h name) fun _ => .pure ())
  | listSlots => exact leads (.bind (listSlots reports) fun _ => .pure ())
  | pass seconds => exact leads (h.pass seconds)
  | outside world => exact leads (h.along (modifyWorld_unrecorded fun _ => world))
  | begin _ | shutdown => cases stays
  | choose _ => cases unchosen

end Turn.Recording

end InteractiveFiction
