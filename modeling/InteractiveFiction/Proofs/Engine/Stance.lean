import InteractiveFiction.Proofs.Engine.Run

/-!
Operations that leave the stance of an engine alone: whether there is a game, what is shown of it
and where it stands.

Items, characters, settings, saves, bundles and the passing of time change a player, the timers or a
store, but neither the scene that is shown nor the one the game stands at
(`Operation.keepsStance_of_isAside`).
-/

set_option autoImplicit false

namespace InteractiveFiction

open Course

namespace Turn

variable {α : Type}

/-- A turn that leaves the stance alone, whatever it fails with. -/
abbrev KeepsStance (turn : Turn α) : Prop :=
  Confined Sitting.stance AnyFault turn

theorem keepsStance {faults : Fault → Prop} {turn : Turn α} (h : Steady faults turn) :
    KeepsStance turn :=
  (confined_stance h).weaken fun _ _ => trivial

theorem publish_keepsStance (event : Event) : KeepsStance (publish event) :=
  confined_stance (publish_steady event)

theorem reporting_keepsStance (operation : String) {turn : Turn α} (h : KeepsStance turn) :
    KeepsStance (reporting operation turn) :=
  confined_reporting operation h publish_keepsStance

theorem requireStatus_keepsStance (status : EngineStatus) (operation : String) :
    KeepsStance (requireStatus status operation) :=
  .bind confined_engine fun _ => .branch (.throw trivial) (.pure ())

theorem requireGame_keepsStance (operation : String) : KeepsStance (requireGame operation) :=
  .bind confined_engine fun _ => .branch (confined_stance (reject_steady _ trivial)) (.pure ())

/-! ## Items, characters and bundles -/

/-- What a use brings is brought in front of the backdrop, up to a gain that is no number. -/
theorem takeEffect_inFront (use : ItemUse) : InFront use.takeEffect := by
  unfold ItemUse.takeEffect
  split
  · exact use.effect.process_inFront
  · exact .branch (.bind use.effect.apply_inFront fun _ => .throw rfl) (.throw rfl)

theorem useItem_keepsStance (id : Document) : KeepsStance (useItem id) := by
  refine reporting_keepsStance _ (.bind (requireStatus_keepsStance _ _) fun _ => ?_)
  refine .bind (keepsStance (onStage_steady (Inventory.useItem_inFront id))) fun use => ?_
  refine .branch ?_ (.pure use)
  refine .bind (keepsStance (onStage_steady (takeEffect_inFront use))) fun _ => ?_
  exact .bind (keepsStance checkAchievements_steady) fun _ => .pure use

/-- An interaction is announced, and changes nothing else on the stage. -/
theorem interact_keeps (cast : Cast) (character kind : Document) :
    Confined Stage.backdrop AnyFault (cast.interact character kind) := by
  unfold Cast.interact
  split
  · exact .bind (Action.confined_lift (Result.anyFault _)) fun _ => .throw trivial
  · split
    · exact .throw trivial
    · refine .bind Action.confined_state fun state => .bind Action.confined_now fun now => ?_
      refine .bind (Action.confined_lift (Result.anyFault _)) fun _ => ?_
      exact .bind (Action.confined_publish rfl) fun _ => .pure _

theorem interact_keepsStance (character kind : Document) :
    KeepsStance (interact character kind) := by
  refine reporting_keepsStance _ (.bind (requireStatus_keepsStance _ _) fun _ => ?_)
  refine .bind confined_engine fun engine => ?_
  refine .bind (keepsStance (onStage_keeps (interact_keeps _ _ _) trivial)) fun _ => ?_
  exact .bind (modifyEngine_keeps_stance fun _ => rfl) fun _ => .pure _

theorem applyBundle_keepsStance (effect : Document) : KeepsStance (applyBundle effect) := by
  refine .branch (.pure []) (.bind confined_world fun world => ?_)
  refine .bind (.modify fun _ => rfl) fun _ => ?_
  refine .bind (confined_lift (Result.anyFault _)) fun bundle => ?_
  exact keepsStance (onStage_steady bundle.process_inFront)

/-! ## Settings and saves -/

theorem startTimers_keepsStance : KeepsStance startTimers :=
  .bind confined_world fun world =>
    modifyEngine_keeps_stance fun engine => engine.stance_startTimers world.elapsed

theorem stopTimers_keepsStance : KeepsStance stopTimers :=
  modifyEngine_keeps_stance fun _ => rfl

/-- What is told once settings were changed. -/
def tellSettings : Turn Settings := do
  let settings := (← state).settings
  publish (.settingsUpdated settings.toDocument)
  pure settings

/-- What is done once settings may be changed. -/
def putSettings (changes : Fields) : Turn Settings := do
  modifyState fun state => { state with settings := state.settings.changeAll changes }
  if (← engine).status = .running && (changes.map Prod.fst).any timingSettings.contains then
    stopTimers
    startTimers
  let settings := (← state).settings
  publish (.settingsUpdated settings.toDocument)
  pure settings

/-- The names of changes that no setting has. -/
def unknownNames (changes : Fields) : List String :=
  (changes.map Prod.fst).filter fun name => !Settings.names.contains name

theorem updateSettings_eq (changes : Fields) :
    updateSettings changes = (do
      requireGame "update_settings"
      if !(unknownNames changes).isEmpty then
        reject "update_settings"
          (.content (.unknownSettings (Effect.sortTexts (unknownNames changes))))
      putSettings changes) := rfl

theorem updateSettings_keepsStance (changes : Fields) : KeepsStance (updateSettings changes) := by
  have told : KeepsStance tellSettings :=
    .bind (confined_state trivial) fun _ => .bind (publish_keepsStance _) fun _ => .pure _
  have puts : KeepsStance (putSettings changes) := by
    refine .bind (confined_stance (modifyState_steady fun _ => rfl)) fun _ => ?_
    refine .bind confined_engine fun engine => .branch ?_ told
    exact .bind stopTimers_keepsStance fun _ => .bind startTimers_keepsStance fun _ => told
  rw [updateSettings_eq]
  refine .bind (requireGame_keepsStance _) fun _ => ?_
  exact .branch (.bind (confined_stance (reject_steady _ trivial)) fun _ => puts) puts

theorem manualSave_keepsStance (name : Document) : KeepsStance (manualSave name) :=
  .bind (requireGame_keepsStance _) fun _ =>
    .tryCatch (keepsStance (save_steady name false)) fun _ _ =>
      confined_stance (reject_steady _ trivial)

theorem listSlots_keepsStance : KeepsStance listSlots := by
  refine .bind confined_world fun world => ?_
  split
  · exact .pure _
  · refine .branch (.bind (publish_keepsStance _) fun _ => .throw trivial) (.throw trivial)

/-! ## The passing of time -/

/-- A timer that went off is set again. -/
def startPlaytime : Turn Unit := do
  let elapsed := (← world).elapsed
  modifyEngine fun engine => engine.startPlaytime elapsed

def startAutosave : Turn Unit := do
  let elapsed := (← world).elapsed
  modifyEngine fun engine => engine.startAutosave elapsed

theorem countPlaytime_keepsStance : KeepsStance countPlaytime := by
  have again : KeepsStance startPlaytime :=
    .bind confined_world fun _ => modifyEngine_keeps_stance fun _ => rfl
  refine .bind confined_engine fun engine => .branch (.bind ?_ fun _ => again) again
  exact confined_stance (modifyState_steady fun _ => rfl)

theorem saveByItself_keepsStance : KeepsStance saveByItself := by
  have again : KeepsStance startAutosave :=
    .bind confined_world fun _ => modifyEngine_keeps_stance fun _ => Engine.stance_startAutosave _ _
  refine .bind confined_engine fun engine => .branch (.bind ?_ fun _ => again) again
  exact keepsStance autosave_steady

theorem applyDelayed_keepsStance : KeepsStance applyDelayed := by
  refine .bind confined_engine fun engine => ?_
  split
  · rename_i delayed _
    have applying : KeepsStance (do
        let _ ← onStage delayed.effect.process
        checkAchievements) :=
      .bind (keepsStance (onStage_steady delayed.effect.process_inFront)) fun _ =>
        keepsStance checkAchievements_steady
    refine .branch (.bind (modifyEngine_keeps_stance fun _ => rfl) fun _ => ?_) (.pure ())
    exact .tryCatch applying fun _ _ => .branch (publish_keepsStance _) (.pure ())
  · exact .pure ()

theorem fire_keepsStance (timer : Timer) : KeepsStance (fire timer) := by
  refine .bind (modifyEngine_keeps_stance fun _ => rfl) fun _ => ?_
  cases timer.kind with
  | playtime => exact countPlaytime_keepsStance
  | autosave => exact saveByItself_keepsStance
  | delayedEffects => exact applyDelayed_keepsStance

theorem passWithin_keepsStance (time : Float) (fuel : Nat) : KeepsStance (passWithin time fuel) := by
  induction fuel with
  | zero => exact .pure ()
  | succ fuel ih =>
    refine .bind confined_engine fun engine => ?_
    split
    · refine .bind (.modify fun _ => rfl) fun _ => ?_
      exact .bind (fire_keepsStance _) fun _ => ih
    · exact .pure ()

theorem pass_keepsStance (seconds : Float) : KeepsStance (pass seconds) := by
  refine .bind confined_world fun world => .bind confined_engine fun engine => ?_
  exact .bind (passWithin_keepsStance _ _) fun _ => .modify fun _ => rfl

end Turn

/-! ## Operations -/

namespace Operation

/-- What is done aside from the course of a game: neither its life nor its scenes are changed. -/
def isAside : Operation → Bool
  | useItem _ | interact .. | updateSettings _ | applyBundle _ | autosave | manualSave _
  | listSlots | pass _ | outside _ => true
  | _ => false

theorem keepsStance_of_isAside {operation : Operation} (aside : operation.isAside = true) :
    Turn.KeepsStance operation.turn := by
  cases operation with
  | useItem item => exact .bind (Turn.useItem_keepsStance item) fun _ => .pure ()
  | interact character kind =>
    exact .bind (Turn.interact_keepsStance character kind) fun _ => .pure ()
  | updateSettings changes =>
    exact .bind (Turn.updateSettings_keepsStance changes) fun _ => .pure ()
  | applyBundle effect => exact .bind (Turn.applyBundle_keepsStance effect) fun _ => .pure ()
  | autosave => exact .bind (Turn.keepsStance Turn.autosave_steady) fun _ => .pure ()
  | manualSave name => exact .bind (Turn.manualSave_keepsStance name) fun _ => .pure ()
  | listSlots => exact .bind Turn.listSlots_keepsStance fun _ => .pure ()
  | pass seconds => exact Turn.pass_keepsStance seconds
  | outside world => exact .modify fun _ => rfl
  | wake | begin _ | pause | resume | shutdown | choose _ | navigate _ => cases aside

end Operation

end InteractiveFiction
