import InteractiveFiction.Document.Writer
import InteractiveFiction.Terminal
import Std.Time.DateTime.Timestamp

/-!
The program at a real terminal.

Saved games are files of one folder, which also holds the list of their names.
-/

set_option autoImplicit false

namespace InteractiveFiction

namespace Program

/-! ## Surroundings -/

def currentTime : IO Instant := do
  let time ← Std.Time.Timestamp.now
  pure (Float.ofInt time.toMillisecondsSinceUnixEpoch.toInt / 1000.0)

/-- The text of a file, if it can be read. -/
def readText? (path : String) : IO (Option String) := do
  try
    let text ← IO.FS.readFile path
    pure (some text)
  catch _ => pure none

def readFiles (paths : List String) : IO (OrderedMap FolderEntry) := do
  let mut files : OrderedMap FolderEntry := .empty
  for path in paths do
    match ← readText? path with
    | some text => files := files.insert (Path.clean path) (.text text)
    | none => pure ()
  pure files

/-- The file that lists the saved games of a folder. -/
def listName : String := "slots.txt"

def savedPaths (folder : String) : IO (List String) := do
  let names := ((← readText? (Path.join folder listName)).getD "").splitOn "\n"
  pure ((names.filter fun name => name ≠ "").map (Path.join folder))

def readEnvironment (names : List String) : IO (List (String × String)) :=
  names.filterMapM fun name => do
    pure ((← IO.getEnv name).map fun value => (name, value))

def filesOf (home : String) : Invocation → IO (List String)
  | .play request => do
    let folder := Surroundings.saveFolder { now := 0.0, home } request
    pure (request.file.toList ++ (← savedPaths folder))
  | .validate file => pure [file]
  | _ => pure []

def look (invocation : Invocation) : IO Surroundings := do
  let home := (← IO.getEnv "HOME").getD ""
  pure {
    now := (← currentTime)
    issued := (← IO.rand 0 0xffff0000)
    files := (← readFiles (← filesOf home invocation))
    environment := (← readEnvironment EngineConfig.environmentNames)
    home }

/-! ## Saved games -/

def savesOf (sitting : Sitting) : OrderedMap FolderEntry :=
  match sitting.world.store.medium with
  | .folder store => store.entries
  | .memory _ => .empty

/-- Writes what became different in the saved games. -/
def writeSaves (folder : String) (old new : OrderedMap FolderEntry) : IO Unit := do
  if old ≠ new then
    IO.FS.createDirAll folder
    for (name, entry) in new.entries do
      if old.get? name ≠ some entry then
        match entry with
        | .document d => IO.FS.writeFile (Path.join folder name) d.write
        | .text s => IO.FS.writeFile (Path.join folder name) s
        | .folder => pure ()
    for name in old.keys do
      if !new.contains name then IO.FS.removeFile (Path.join folder name)
    IO.FS.writeFile (Path.join folder listName) (String.join (new.keys.map (· ++ "\n")))

/-! ## Running -/

def flush (desk : Desk) : IO Desk := do
  let output ← IO.getStdout
  output.putStr desk.printed
  output.flush
  pure { desk with printed := "" }

def finish : Ending → IO UInt32
  | .exit code => pure (UInt32.ofNat code)
  | .failure fault => do
    IO.eprintln s!"{fault.family}: {fault.message}"
    pure 1

/-- Carries on a game, line by line; the time the player takes passes in the game. -/
partial def converse (folder : String) (presented : PresentedScene) (desk : Desk) :
    IO UInt32 := do
  let (_, asked) := (Play.prompt.run).run desk
  let asked ← flush asked
  let before ← currentTime
  let line ← (← IO.getStdin).getLine
  let after ← currentTime
  if line.isEmpty then finish (.failure .inputEnded)
  else
    let answering : Console (Option PresentedScene) := do
      Turn.pass (after - before)
      Play.answer presented line
    let (result, answered) := (answering.run).run asked
    writeSaves folder (savesOf desk.sitting) (savesOf answered.sitting)
    let answered ← flush answered
    match result with
    | .ok (some next) => converse folder next answered
    | .ok none => finish (.exit 0)
    | .error fault => finish (.failure fault)

def play (surroundings : Surroundings) (request : PlayRequest) : IO UInt32 := do
  match Terminal.seat surroundings request with
  | .error transcript =>
    IO.print transcript.printed
    finish transcript.ending
  | .ok (story, sitting) =>
    let (result, desk) := ((Play.start story request.player).run).run { sitting }
    let desk ← flush desk
    match result with
    | .ok presented => converse (surroundings.saveFolder request) presented desk
    | .error fault => finish (.failure fault)

def run (arguments : List String) : IO UInt32 := do
  match Invocation.ofArguments arguments with
  | .ok (.play request) => play (← look (.play request)) request
  | .ok invocation =>
    let { printed, ending } := Terminal.carryOut (← look invocation) [] invocation
    IO.print printed
    finish ending
  | .error stop =>
    if stop = .misuse then IO.eprintln Invocation.usage
    let { printed, ending } := Terminal.stop stop
    IO.print printed
    finish ending

end Program

end InteractiveFiction

def main (arguments : List String) : IO UInt32 :=
  InteractiveFiction.Program.run arguments
