import InteractiveFiction.Service

/-!
The service over HTTP: which paths there are, what may be asked of them, and how answers look.

A path that is not known is not found; a method that a path does not have is not allowed.  The body
of a request is checked before anything else is.
-/

set_option autoImplicit false

namespace InteractiveFiction

structure WebRequest where
  method : String
  path : String
  body : Option Document := none

structure WebResponse where
  status : Nat := 200
  body : Document
deriving DecidableEq

namespace ErrorCode

def status : ErrorCode → Nat
  | .sessionNotFound | .storyNotFound | .sceneNotFound => 404
  | .invalidState => 409
  | .persistenceError | .internalError => 500
  | .choiceUnavailable | .sceneInaccessible | .validationError => 400

end ErrorCode

namespace WebResponse

def toDocument (response : WebResponse) : Document :=
  .object [("status", .int response.status), ("body", response.body)]

def detail (status : Nat) (text : String) : WebResponse :=
  { status, body := .object [("detail", .text text)] }

def ofAnswer : Answer → WebResponse
  | .ok body => { body }
  | .error error => { status := error.code.status, body := error.toDocument }

/-- What is wrong with a body: places and kinds of problems, in order. -/
def unprocessable (problems : List (String × String)) : WebResponse :=
  let sorted := problems.mergeSort fun a b => a.1 < b.1 || a.1 == b.1 && decide (a.2 ≤ b.2)
  { status := 422
    body := .list (sorted.map fun (place, kind) => .list [.text place, .text kind]) }

end WebResponse

/-! ## Paths -/

inductive SessionPath where
  | start | load | choices | state | pause | resume | items | interactions | saves | settings
  | events
deriving DecidableEq, Repr

inductive Endpoint where
  | root | health | stories | sessions | saves
  | session (id : String)
  | within (id : String) (path : SessionPath)
deriving DecidableEq

namespace SessionPath

def ofSegment? : String → Option SessionPath
  | "start" => some .start
  | "load" => some .load
  | "choices" => some .choices
  | "state" => some .state
  | "pause" => some .pause
  | "resume" => some .resume
  | "items" => some .items
  | "interactions" => some .interactions
  | "saves" => some .saves
  | "settings" => some .settings
  | "events" => some .events
  | _ => none

def method : SessionPath → String
  | .state | .events => "GET"
  | .settings => "PATCH"
  | _ => "POST"

end SessionPath

namespace Endpoint

def ofSegments? : List String → Option Endpoint
  | ["", ""] => some .root
  | ["", "health"] => some .health
  | ["", "api", "v1", "stories"] => some .stories
  | ["", "api", "v1", "saves"] => some .saves
  | ["", "api", "v1", "sessions"] => some .sessions
  | ["", "api", "v1", "sessions", id] => if id.isEmpty then none else some (.session id)
  | ["", "api", "v1", "sessions", id, path] =>
    if id.isEmpty then none else (SessionPath.ofSegment? path).map (.within id)
  | _ => none

/-- The end point of a path, what follows a question mark set aside. -/
def ofPath? (path : String) : Option Endpoint :=
  let named := String.ofList (path.toList.takeWhile (· != '?'))
  ofSegments? (named.splitOn "/")

def methods : Endpoint → List String
  | .root | .health | .stories | .saves => ["GET"]
  | .sessions => ["GET", "POST"]
  | .session _ => ["GET", "DELETE"]
  | .within _ path => [path.method]

end Endpoint

/-! ## Answers -/

namespace Service

def rootReport : Document :=
  .object [("name", "Fabula Engine API"), ("version", "0.1.0"), ("docs", "/api/docs"),
    ("health", "/health")]

def healthReport : Document :=
  .object [("status", "healthy"), ("service", "fabula-engine"), ("version", "0.1.0"),
    ("environment", "development")]

/-- Answers a request whose body is checked first. -/
def handleBody (id : String) (body : Option Document) (read : Fields → Reading Request) :
    Serving WebResponse := do
  match body with
  | none | some .null => pure (.unprocessable [("body", "missing")])
  | some (.object fields) =>
    match read fields with
    | .ok request => pure (.ofAnswer (← handle id request))
    | .error problems =>
      pure (.unprocessable (problems.map fun p => ("body." ++ p.field, p.fault.label)))
  | some _ => pure (.unprocessable [("body", "model_attributes_type")])

def answerWithin (id : String) (body : Option Document) : SessionPath → Serving WebResponse
  | .start => handleBody id body Request.startGame?
  | .load => handleBody id body Request.loadGame?
  | .choices => handleBody id body Request.makeChoice?
  | .items => handleBody id body Request.useItem?
  | .interactions => handleBody id body Request.interact?
  | .saves => handleBody id body Request.saveGame?
  | .settings => handleBody id body Request.updateSettings?
  | .state => return .ofAnswer (← gameState id)
  | .pause => return .ofAnswer (← pause id)
  | .resume => return .ofAnswer (← resume id)
  | .events => return .ofAnswer (← events id)

def answerAt (request : WebRequest) : Endpoint → Serving WebResponse
  | .root => pure { body := rootReport }
  | .health => pure { body := healthReport }
  | .stories => do pure { body := (← get).stories }
  | .saves => return .ofAnswer (← saves)
  | .sessions => do
    if request.method == "POST" then handleBody "" request.body Request.createSession?
    else
      let ids := (← get).activeSessions.map Document.text
      pure { body := Report.counted "sessions" ids }
  | .session id => do
    if request.method == "DELETE" then
      let success ← endSession id
      pure { body := .object [("success", .bool success), ("session_id", .text id), apiVersion] }
    else return .ofAnswer (← getSession id)
  | .within id path => answerWithin id request.body path

def respond (request : WebRequest) : Serving WebResponse :=
  match Endpoint.ofPath? request.path with
  | none => pure (.detail 404 "Not Found")
  | some endpoint =>
    if endpoint.methods.contains request.method then answerAt request endpoint
    else pure (.detail 405 "Method Not Allowed")

end Service

end InteractiveFiction
