import InteractiveFiction.Engine.Lifecycle
import InteractiveFiction.Inventory.Use
import InteractiveFiction.Story.Decision

/-!
What a player does in a running game: choosing, going somewhere, using items, meeting characters,
changing settings.
-/

set_option autoImplicit false

namespace InteractiveFiction

/-- What became of a choice: the scene it led to, or the end of the story. -/
structure ChoiceOutcome where
  choice : ChoiceResult
  effects : List Outcome := []
  scene : Option PresentedScene := none
  ended : Bool := false
deriving DecidableEq

namespace ChoiceOutcome

def toDocument (outcome : ChoiceOutcome) : Document :=
  .object [("choice", outcome.choice.toDocument),
    ("effects", .list (outcome.effects.map Outcome.toDocument)),
    ("scene", Document.ofOption (outcome.scene.map PresentedScene.toDocument)),
    ("ended", .bool outcome.ended)]

end ChoiceOutcome

namespace PresentedScene

/-- The choice of an id among those that are offered. -/
def choice? (presented : PresentedScene) (id : Document) : Option Choice :=
  (presented.choices.find? fun offered => offered.choice.id == id).map PresentedChoice.choice

end PresentedScene

namespace ItemUse

/-- Applies what a use brings.  A gain that is no number is refused where its turn comes: mana comes
after health. -/
def takeEffect (use : ItemUse) : Action (List Outcome) := do
  match use.spoilt? with
  | none => use.effect.process
  | some (key, gain) =>
    if key = "mana" then
      let _ ← use.effect.apply
    throw (.mistyped (.operand s!"unsupported operand type(s) for +: 'int' and '{gain.kind}'"))

end ItemUse

namespace Turn

/-! ## Choices -/

/-- The choice of an id, if it is offered and may be made now, with the decision on it. -/
def accept (id : Document) : Turn (Choice × ChoiceResult) := do
  let engine ← engine
  match engine.scene with
  | none => throw (.noField "NoneType" "choices")
  | some scene =>
    match scene.choice? id with
    | none =>
      id.checkKey
      throw (.choiceUnavailable id "not offered in the current scene")
    | some choice =>
      let startedAt := Document.ofOption (engine.presentedAt.map Document.float)
      let result ← choice.judge (← now) (← state) startedAt
      if result.success then pure (choice, result)
      else throw (.choiceUnavailable id (result.error.getD ""))

/-- Enters the scene a choice leads to; when that fails by the rules, the state is the one from
before the choice. -/
def follow (target : Document) (before : GameState) : Turn PresentedScene :=
  tryCatch (enterScene target {}) fun fault => do
    if fault.isOfGame then modifyState fun _ => before
    throw fault

def recordChoice (id scene text : Document) : Turn Unit := do
  let timestamp := Timestamp.text (← now)
  modifyState fun state =>
    { state with progress := { state.progress with
        choicesMade := state.progress.choicesMade ++ [⟨id, scene, text, timestamp⟩] } }

def resolveChoice (id : Document) : Turn ChoiceOutcome := do
  let (choice, result) ← accept id
  let before ← state
  if choice.target.isTruthy then
    let _ ← (← engine).content.scene before.storyId choice.target
  let scene := before.currentSceneId
  let effects ← onStage result.effects.process
  recordChoice id scene choice.text
  let target := (Outcome.teleportTarget effects).getD choice.target
  if target.isTruthy then
    let entered ← follow target before
    publish (.choiceMade id scene choice.text)
    pure { choice := result, effects, scene := some entered }
  else
    publish (.choiceMade id scene choice.text)
    endGame
    pure { choice := result, effects, ended := true }

def makeChoice (id : Document) : Turn ChoiceOutcome :=
  reporting "make_choice" do
    if (← engine).status = .ended then throw (.lifecycle .gameEnded)
    requireStatus .running "make_choice"
    resolveChoice id

def navigate (id : Document) : Turn PresentedScene :=
  reporting "navigate_to_scene" do
    requireStatus .running "navigate_to_scene"
    enterScene id {}

/-! ## Items and characters -/

def useItem (id : Document) : Turn ItemUse :=
  reporting "use_item" do
    requireStatus .running "use_item"
    let use ← onStage (Inventory.useItem id)
    if use.success && !use.isIdle then
      let _ ← onStage use.takeEffect
      checkAchievements
    pure use

def interact (character kind : Document) : Turn Interaction :=
  reporting "interact" do
    requireStatus .running "interact"
    let (interaction, cast) ← onStage ((← engine).cast.interact character kind)
    modifyEngine fun engine => { engine with cast }
    pure interaction

/-! ## Settings -/

/-- The settings that the timer of saving depends on. -/
def timingSettings : List String := ["autosave", "autosave_interval"]

def updateSettings (changes : Fields) : Turn Settings := do
  requireGame "update_settings"
  let names := changes.map Prod.fst
  let unknown := names.filter fun name => !Settings.names.contains name
  if !unknown.isEmpty then
    reject "update_settings" (.content (.unknownSettings (Effect.sortTexts unknown)))
  modifyState fun state => { state with settings := state.settings.changeAll changes }
  if (← engine).status = .running && names.any timingSettings.contains then
    stopTimers
    startTimers
  let settings := (← state).settings
  publish (.settingsUpdated settings.toDocument)
  pure settings

def applyBundle (effect : Document) : Turn (List Outcome) := do
  if effect = .null then pure []
  else
    let (effect, issued) := ((Effect.ofDocument effect).run).run (← world).issued
    modifyWorld fun world => { world with issued }
    onStage (← effect).process

end Turn

end InteractiveFiction
