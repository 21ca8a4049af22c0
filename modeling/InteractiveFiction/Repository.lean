import InteractiveFiction.Story.Check

/-!
Repositories: stories by id, each checked once when it is added.
-/

set_option autoImplicit false

namespace InteractiveFiction

/-- A story and what its check found, when it was checked. -/
structure Volume where
  story : Story
  check : Option StoryCheck
deriving DecidableEq

structure Repository where
  volumes : List Volume := []
deriving DecidableEq

namespace Repository

def volume? (repository : Repository) (id : Document) : Option Volume :=
  repository.volumes.find? fun volume => volume.story.id == id

/-- Adds a story at the end, or in the place of the one that has its id.  A check that was made
earlier stays when the new story comes unchecked. -/
def put (repository : Repository) (story : Story) (check : Option StoryCheck) : Repository :=
  match repository.volume? story.id with
  | some old =>
    let volume : Volume := ⟨story, check.orElse fun _ => old.check⟩
    ⟨repository.volumes.map fun v => if v.story.id == story.id then volume else v⟩
  | none => ⟨repository.volumes ++ [⟨story, check⟩]⟩

/-- Adds a story; when it is to be checked, only if it passes. -/
def add (repository : Repository) (story : Story) (validate : Bool) : Result Repository := do
  if validate then
    let check ← story.ensureValid
    story.id.checkKey
    pure (repository.put story (some check))
  else
    story.id.checkKey
    pure (repository.put story none)

def ofStories (stories : List Story) (validate : Bool) : Result Repository :=
  stories.foldlM (fun repository story => repository.add story validate) {}

/-- The field that holds the documents of a collection. -/
def collectionKey : String := "stories"

/-- Whether a document holds the key of collections. -/
def isCollection : Document → Result Bool
  | .object fields => pure (Fields.has fields collectionKey)
  | .list items => pure (items.contains (.text collectionKey))
  | .text s => pure ((s.splitOn collectionKey).length > 1)
  | d => throw (.mistyped (.notIterable d.kind))

/-- The documents of a collection, or the one document itself. -/
def documents (d : Document) : Result (List Document) := do
  if ← isCollection d then (← d.require collectionKey).toItems else pure [d]

def ofDocument (d : Document) (validate : Bool) : Issue Repository := do
  let stories ← (← documents d).mapM Story.ofDocument
  ofStories stories validate

/-! ## Queries -/

def stories (repository : Repository) : List Story :=
  repository.volumes.map Volume.story

/-- The record of an id.  Records stand under keys, so an id that has one can be looked up. -/
def find {α : Type} (record? : Document → Option α) (missing : Fault) (id : Document) : Result α :=
  match record? id with
  | some record => pure record
  | none => do
    id.checkKey
    throw missing

/-- The records of ids, in their order; an id that can be looked up and has none is passed over. -/
def collect {α : Type} (record? : Document → Option α) : List Document → Result (List α)
  | [] => pure []
  | id :: ids =>
    match record? id with
    | some record => do pure (record :: (← collect record? ids))
    | none => do
      id.checkKey
      collect record? ids

def story (repository : Repository) (id : Document) : Result Story :=
  find (fun id => (repository.volume? id).map Volume.story) (.content (.storyNotFound id)) id

def check? (repository : Repository) (id : Document) : Option StoryCheck :=
  (repository.volume? id).bind Volume.check

def scene (repository : Repository) (story scene : Document) : Result Scene := do
  find (← repository.story story).scene? (.sceneNotFound scene) scene

def choices (repository : Repository) (story : Document) (ids : List Document) :
    Result (List Choice) := do
  collect (← repository.story story).choice? ids

def characters (repository : Repository) (story scene : Document) : Result (List Character) := do
  let found ← repository.story story
  collect found.character? (← repository.scene story scene).characterIds

def achievements (repository : Repository) (story : Document) : Result (List Achievement) := do
  pure (← repository.story story).achievements

def sceneCount (repository : Repository) (story : Document) : Result Nat := do
  pure (← repository.story story).scenes.length

def startingScene (repository : Repository) (story : Document) : Result Document := do
  pure (← repository.story story).startingSceneId

end Repository

end InteractiveFiction
