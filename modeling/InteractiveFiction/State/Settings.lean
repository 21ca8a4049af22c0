import InteractiveFiction.Document.Coercion

/-!
Settings of a play-through.  A setting holds whatever it was last given; the rules ask whether it
counts as present, and read the autosave interval as a number of seconds.
-/

set_option autoImplicit false

namespace InteractiveFiction

structure Settings where
  autosave : Document := .bool true
  autosaveInterval : Document := .float 30.0
  textSpeed : Document := "medium"
  soundEnabled : Document := .bool true
  musicEnabled : Document := .bool true
  difficulty : Document := "normal"
deriving DecidableEq

namespace Settings

def ofDocument (d : Document) : Result Settings := do
  let fields ← d.fields "get"
  let interval ← (fields.getD "autosaveInterval" (.float 30.0)).toFloat
  pure {
    autosave := .bool (fields.getD "autosave" (.bool true)).isTruthy
    autosaveInterval := .float interval
    textSpeed := fields.getD "textSpeed" "medium"
    soundEnabled := .bool (fields.getD "soundEnabled" (.bool true)).isTruthy
    musicEnabled := .bool (fields.getD "musicEnabled" (.bool true)).isTruthy
    difficulty := fields.getD "difficulty" "normal" }

def toDocument (settings : Settings) : Document :=
  .object [("autosave", settings.autosave), ("autosaveInterval", settings.autosaveInterval),
    ("textSpeed", settings.textSpeed), ("soundEnabled", settings.soundEnabled),
    ("musicEnabled", settings.musicEnabled), ("difficulty", settings.difficulty)]

def names : List String :=
  ["autosave", "autosave_interval", "text_speed", "sound_enabled", "music_enabled", "difficulty"]

/-- Gives one setting another value; a name that is not a setting changes nothing. -/
def change (settings : Settings) (name : String) (value : Document) : Settings :=
  match name with
  | "autosave" => { settings with autosave := value }
  | "autosave_interval" => { settings with autosaveInterval := value }
  | "text_speed" => { settings with textSpeed := value }
  | "sound_enabled" => { settings with soundEnabled := value }
  | "music_enabled" => { settings with musicEnabled := value }
  | "difficulty" => { settings with difficulty := value }
  | _ => settings

def changeAll (settings : Settings) (changes : Fields) : Settings :=
  changes.foldl (fun settings (name, value) => settings.change name value) settings

end Settings

end InteractiveFiction
