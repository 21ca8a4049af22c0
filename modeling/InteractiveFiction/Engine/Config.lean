import InteractiveFiction.State.Settings
import InteractiveFiction.Text.Blank
import InteractiveFiction.Text.Lowercase

/-!
The configuration of an engine: the settings of new games, and how fast playtime passes.

An environment is a list of named texts; what it does not name keeps its default.
-/

set_option autoImplicit false

namespace InteractiveFiction

structure EngineConfig where
  settings : Settings := {}
  /-- Seconds for each unit of playtime. -/
  playtimeTick : Float := 1.0
  debug : Document := .bool false
deriving DecidableEq

namespace EngineConfig

def environmentNames : List String := [
  "FABULA_AUTOSAVE", "FABULA_AUTOSAVE_INTERVAL", "FABULA_PLAYTIME_TICK", "FABULA_TEXT_SPEED",
  "FABULA_SOUND", "FABULA_MUSIC", "FABULA_DIFFICULTY", "FABULA_DEBUG"]

def isYes (value : String) : Bool :=
  ["1", "true", "yes", "on"].contains (lowerText (trimBlank value))

def ofEnvironment (environment : List (String × String)) : Result EngineConfig := do
  let yes (name : String) (default : Document) : Document :=
    match environment.lookup name with
    | some value => .bool (isYes value)
    | none => default
  let seconds (name : String) (default : Float) : Result Float :=
    match environment.lookup name with
    | some value => (Document.text value).toFloat
    | none => pure default
  let text (name : String) (default : Document) : Document :=
    Document.ofOption ((environment.lookup name).map Document.text |>.orElse fun _ => some default)
  let defaults : Settings := {}
  let autosaveInterval ← seconds "FABULA_AUTOSAVE_INTERVAL" 30.0
  let playtimeTick ← seconds "FABULA_PLAYTIME_TICK" 1.0
  pure {
    settings := {
      autosave := yes "FABULA_AUTOSAVE" defaults.autosave
      autosaveInterval := .float autosaveInterval
      textSpeed := text "FABULA_TEXT_SPEED" defaults.textSpeed
      soundEnabled := yes "FABULA_SOUND" defaults.soundEnabled
      musicEnabled := yes "FABULA_MUSIC" defaults.musicEnabled
      difficulty := text "FABULA_DIFFICULTY" defaults.difficulty }
    playtimeTick
    debug := yes "FABULA_DEBUG" (.bool false) }

end EngineConfig

end InteractiveFiction
