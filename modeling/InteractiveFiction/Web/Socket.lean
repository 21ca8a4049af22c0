import InteractiveFiction.Document.Reader
import InteractiveFiction.Web.Route

/-!
Sockets: a client listens to the events of a session, and may ask whether the line is still open.

While a socket is open, requests may come in over HTTP; what they make the session announce is sent
on.  When the session is ended, its socket is closed.
-/

set_option autoImplicit false

namespace InteractiveFiction

inductive SocketMessage where
  | accept
  | send (message : Document)
  | close
deriving DecidableEq

/-- What happens while a socket is open: a text from the client, or a request over HTTP. -/
inductive SocketInput where
  | text (text : String)
  | request (request : WebRequest)

namespace SocketMessage

def toDocument : SocketMessage → Document
  | .accept => .list ["accept"]
  | .send message => .list ["send", message]
  | .close => .list ["close"]

def error (message : String) : SocketMessage :=
  .send (.object [("type", "error"), ("payload", .object [("message", .text message)])])

def event (record : EventRecord) : SocketMessage :=
  .send (.object [("type", "event"), ("payload", Report.event record)])

def pong : SocketMessage :=
  .send (.object [("type", "pong")])

/-- The reply to a text; there is no going on after a message that is not an object, or whose
integers are too long. -/
def reply (text : String) : Option (List SocketMessage) :=
  match Document.read text with
  | .error .malformed => some [error "Invalid JSON"]
  | .ok (.object message) =>
    some (if Fields.getD message "type" .null == .text "ping" then [pong] else [])
  | .ok _ | .error (.tooLong _) => none

end SocketMessage

namespace Service

/-- What a listener has heard since the last time, and that the session was ended. -/
def hear : Serving (List SocketMessage) := do
  match (← get).listener with
  | some listener =>
    let heard := listener.heard.map SocketMessage.event
    if listener.closed then
      modify fun service => { service with listener := none }
      pure (heard ++ [.close])
    else
      modify fun service => { service with listener := some { listener with heard := [] } }
      pure heard
  | none => pure []

/-- Goes through what happens while a socket is open: the messages that are sent and the responses
to the requests. -/
def converse : List SocketInput → Serving (List SocketMessage × List WebResponse)
  | [] => pure ([], [])
  | .text text :: inputs => do
    if (← get).listener.isSome then
      match SocketMessage.reply text with
      | some replies =>
        let (sent, responses) ← converse inputs
        pure (replies ++ sent, responses)
      | none =>
        modify fun service => { service with listener := none }
        converse inputs
    else converse inputs
  | .request request :: inputs => do
    let response ← respond request
    pass 0.0
    let heard ← hear
    let (sent, responses) ← converse inputs
    pure (heard ++ sent, response :: responses)

/-- Opens a socket on a session, and closes it when nothing more happens. -/
def openSocket (id : String) (inputs : List SocketInput) :
    Serving (List SocketMessage × List WebResponse) := do
  match (← get).session? id with
  | some _ =>
    modify fun service => { service with listener := some { session := id } }
    let (sent, responses) ← converse inputs
    modify fun service => { service with listener := none }
    pure (.accept :: sent, responses)
  | none =>
    let (sent, responses) ← converse inputs
    pure ([.accept, .error s!"Session not found: {id}", .close] ++ sent, responses)

end Service

end InteractiveFiction
