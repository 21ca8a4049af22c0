import InteractiveFiction.Engine.Passage
import InteractiveFiction.Lantern
import InteractiveFiction.Terminal.Invocation

/-!
What a program finds around it: the time, files by path, an environment; and what it makes of them.
-/

set_option autoImplicit false

namespace InteractiveFiction

/-! ## Paths -/

namespace Path

/-- The path without empty parts and parts that stay where they are. -/
def clean (path : String) : String :=
  let parts := (path.splitOn "/").filter fun part => part ≠ "" && part ≠ "."
  (if path.startsWith "/" then "/" else "") ++ String.intercalate "/" parts

def join (folder name : String) : String :=
  clean (folder ++ (if folder.isEmpty then "" else "/") ++ name)

/-- The path with the home folder in the place of a leading tilde. -/
def expand (home path : String) : String :=
  if path = "~" then clean home
  else if path.startsWith "~/" then join home (String.ofList (path.toList.drop 2))
  else clean path

/-- The name of a path in a folder, when it lies in the folder itself. -/
def nameIn? (folder path : String) : Option String :=
  let start := if folder.isEmpty then "" else folder ++ "/"
  let name := String.ofList (path.toList.drop start.length)
  if path.startsWith start && !name.contains '/' then some name else none

end Path

structure Surroundings where
  now : Instant
  /-- How many identities were issued before. -/
  issued : Nat := 0
  files : OrderedMap FolderEntry := .empty
  environment : List (String × String) := []
  home : String := ""

namespace Surroundings

variable (surroundings : Surroundings)

def document (path : String) : Result Document :=
  match surroundings.files.get? (Path.clean path) with
  | some (.document d) => pure d
  | some (.text s) =>
    match Document.read s with
    | .ok d => pure d
    | .error .malformed => throw (.content (.notJson (Path.clean path)))
    | .error (.tooLong digits) => throw (.value (.intTooLong digits))
  | some .folder | none => throw (.fileMissing (Path.clean path))

def stories (path : String) (validate : Bool) : Issue Repository := do
  Repository.ofDocument (← surroundings.document path) validate

def saveFolder (request : PlayRequest) : String :=
  match request.saveFolder with
  | some folder => Path.expand surroundings.home folder
  | none => Path.join surroundings.home ".fabula/saves"

def savesIn (folder : String) : FolderStore :=
  ⟨.ofEntries (surroundings.files.entries.filterMap fun (path, entry) =>
    (Path.nameIn? folder path).map fun name => (name, entry))⟩

def sitting (content : Repository) (config : EngineConfig) (issued : Nat) (medium : SaveMedium) :
    Sitting where
  world := { now := surroundings.now, issued, store := { medium } }
  engine := { content, config }

end Surroundings

end InteractiveFiction
