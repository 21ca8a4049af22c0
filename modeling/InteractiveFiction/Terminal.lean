import InteractiveFiction.Terminal.Demo
import InteractiveFiction.Terminal.Play
import InteractiveFiction.Terminal.Surroundings

/-!
The program as it is used at a terminal: its arguments, what it prints, and how it ends.

* `Terminal.run`: a whole run, for all lines that will be typed.
* `Terminal.validate`, `Terminal.seat`: the check of a file, and the beginning of a game.
-/

set_option autoImplicit false

namespace InteractiveFiction

/-- How a run ends: with a code, or with a fault that nothing handles. -/
inductive Ending where
  | exit (code : Nat)
  | failure (fault : Fault)
deriving DecidableEq

structure Transcript where
  printed : String := ""
  ending : Ending
deriving DecidableEq

namespace Transcript

def ofLines (lines : List String) (code : Nat) : Transcript where
  printed := String.join (lines.map (· ++ "\n"))
  ending := .exit code

/-- What a console printed, and how it ended. -/
def ofConsole (sitting : Sitting) (console : Console Unit) : Transcript :=
  let (result, desk) := (console.run).run { sitting }
  match result with
  | .ok _ => ⟨desk.printed, .exit 0⟩
  | .error fault => ⟨desk.printed, .failure fault⟩

end Transcript

namespace Terminal

/-! ## Checking files -/

def listing (title : String) (items : List String) : List String :=
  if items.isEmpty then [] else s!"  {title}:" :: items.map fun item => s!"    - {item}"

def checkLines (story : Story) : List String :=
  let check := story.check
  let verdict := if check.valid then "valid" else "INVALID"
  ["", s!"{story.id.display} ({story.title.display}): {verdict}",
    s!"  Scenes: {story.scenes.length}  Choices: {story.choices.length}  " ++
      s!"Achievements: {story.achievements.length}"] ++
    listing "Warnings" check.warnings ++ listing "Errors" check.errors

def validate (surroundings : Surroundings) (path : String) : Transcript :=
  let first := s!"Validating: {path}"
  match ((surroundings.stories path false).run).run surroundings.issued with
  | (.ok repository, _) =>
    let failed := repository.stories.any fun story => !story.check.valid
    .ofLines (first :: repository.stories.flatMap checkLines) (if failed then 1 else 0)
  | (.error (.fileMissing _), _) => .ofLines [first, s!"Error: File not found: {path}"] 1
  | (.error fault, _) =>
    if fault.isOfContent then .ofLines [first, s!"Error: {fault.message}"] 1
    else ⟨first ++ "\n", .failure fault⟩

/-! ## Playing -/

def refuse (fault : Fault) : Transcript :=
  match fault with
  | .fileMissing _ => .ofLines [s!"Error: {fault.message}"] 1
  | _ =>
    if fault.isOfGame then .ofLines [s!"Error: {fault.message}"] 1
    else { ending := .failure fault }

def chosenStory (request : PlayRequest) (content : Repository) : Result Document :=
  match request.story, request.file, content.stories with
  | some id, _, _ => pure (.text id)
  | none, none, _ => pure Lantern.id
  | none, some _, story :: _ => pure story.id
  | none, some _, [] => throw .outOfRange

/-- Finds the story and makes all ready for a game of it. -/
def seat (surroundings : Surroundings) (request : PlayRequest) :
    Except Transcript (Document × Sitting) :=
  let stories :=
    match request.file with
    | some path => surroundings.stories path true
    | none => Lantern.repository
  match (stories.run).run surroundings.issued with
  | (.error fault, _) => throw (refuse fault)
  | (.ok content, issued) =>
    let ready : Result (Document × EngineConfig) := do
      let story ← chosenStory request content
      let config ← EngineConfig.ofEnvironment surroundings.environment
      pure (story, config)
    match ready with
    | .error fault => throw { ending := .failure fault }
    | .ok (story, config) =>
      let saves := surroundings.savesIn (surroundings.saveFolder request)
      pure (story, surroundings.sitting content config issued (.folder saves))

def play (surroundings : Surroundings) (request : PlayRequest) (lines : List String) :
    Transcript :=
  match seat surroundings request with
  | .error transcript => transcript
  | .ok (story, sitting) =>
    .ofConsole sitting do
      let presented ← Play.start story request.player
      Play.run presented lines

def demo (surroundings : Surroundings) (player : String) : Transcript :=
  match (Lantern.repository.run).run surroundings.issued with
  | (.error fault, _) => { ending := .failure fault }
  | (.ok content, issued) =>
    .ofConsole (surroundings.sitting content Demo.config issued (.memory {})) (Demo.run player)

/-! ## Running -/

/-- Ends a run whose arguments are not carried out. -/
def stop : ArgumentStop → Transcript
  | .help => .ofLines Invocation.helpLines 0
  | .misuse => { ending := .exit 2 }

/-- Carries out what is asked; serving needs a network, which is not here. -/
def carryOut (surroundings : Surroundings) (lines : List String) : Invocation → Transcript
  | .play request => play surroundings request lines
  | .validate file => validate surroundings file
  | .demo player => demo surroundings player
  | .serve _ _ => { ending := .exit 1 }
  | .nothing => .ofLines Invocation.helpLines 1

def run (surroundings : Surroundings) (arguments : List String) (lines : List String) :
    Transcript :=
  match Invocation.ofArguments arguments with
  | .ok invocation => carryOut surroundings lines invocation
  | .error stop => Terminal.stop stop

end Terminal

end InteractiveFiction
