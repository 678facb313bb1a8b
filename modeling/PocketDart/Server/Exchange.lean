import PocketDart.Json.Reader
import PocketDart.Log.Message
import PocketDart.Schema.Collection
import PocketDart.Server.Address
import PocketDart.Text.Encoding

/-
  This file defines what goes back and forth between the
  program and a server, and the talk with a server as a
  whole: the replies that are yet to come are part of its
  state, so that a talk is a function of them.

  Key definitions include:
    * `Request`
    * `Response`
    * `readBody`
    * `Reply`
    * `ServerError`
    * `TalkError`
    * `Session`
    * `Talk`
    * `Talk.send`
-/

------------------------------------------------------------
-- Requests
------------------------------------------------------------

namespace PocketDart

/- What a request carries. -/
inductive Payload where
  | credentials (identity password : Value)
  | page (page : Nat) (pageSize : Value)

/- The word for the way in which a payload is sent. -/
def Payload.method : Payload → String
  | .credentials _ _ => "POST"
  | .page _ _ => "GET"

/- A request; the token is left out if it is falsy. -/
structure Request where
  url : String
  token : Value
  timeout : Value
  payload : Payload

/- The token of a request that carries one. -/
def Request.authorization?
    (request : Request) : Option Value :=
  if request.token.truthy then some request.token else none

------------------------------------------------------------
-- Replies
------------------------------------------------------------

/-
  Why there is no document in a body: it is malformed, or
  something comes up in decoding it that nobody handles.
-/
inductive BodyFault where
  | malformed (reason : String)
  | unhandled (message : String)
  deriving DecidableEq, Repr

/-
  A response, with what comes of decoding its body. It has
  an address of its own if it does not come from where the
  request went.
-/
structure Response where
  status : Int
  url : Option String
  document : Except BodyFault Value

/- The ways in which there is no response. -/
inductive Outage where
  | timeout
  | connection
  | other
  deriving DecidableEq, Repr

/- What can come of a request. -/
inductive Reply where
  | response (response : Response)
  | outage (kind : Outage) (reason : String)
  | interruption

/- The statuses that stand for errors. -/
def Response.isError (response : Response) : Bool :=
  400 ≤ response.status && response.status < 600

def Response.origin
    (response : Response)
    (request : Request) : String :=
  response.url.getD request.url

/-
  The document in a body that is a text. Nobody handles too
  deep a nest in it.
-/
def readBody
    (machine : Machine)
    (body : String) : Except BodyFault Value :=
  match Json.read machine (Encoding.reread body) with
  | .ok document => .ok document
  | .error (.beyond (.depth nest)) =>
      .error (.unhandled nest.depthMessage)
  | .error error => .error (.malformed error.message)

------------------------------------------------------------
-- Errors
------------------------------------------------------------

/- Why a server does not give what it is asked for. -/
inductive ServerError where
  | outage (kind : Outage) (url reason : String)
  | status (code : Int) (url : String)
  | notJson (url reason : String)
  | noToken
  | notPage
  | malformed (fault : SchemaFault)

namespace ServerError

/- An error in words. -/
def message : ServerError → String
  | .outage .timeout url _ =>
      "Request timeout for URL: " ++ url
  | .outage .connection url _ =>
      "Connection error for URL: " ++ url
  | .outage .other url reason =>
      "Request error for URL " ++ url ++ ": " ++ reason
  | .status code url =>
      "HTTP error " ++ toString code ++ " for URL: " ++ url
  | .notJson url reason =>
      "Invalid JSON response from URL " ++ url ++ ": " ++
        reason
  | .noToken =>
      "Authentication response did not contain a token"
  | .notPage => "Unexpected collections response format"
  | .malformed fault =>
      "Malformed collection payload: " ++ fault.message

/- What is logged about an error, if anything. -/
def logText? : ServerError → Option String
  | .outage .connection url reason =>
      some ("Connection error for URL " ++ url ++ ": " ++
        reason)
  | .noToken | .notPage | .malformed _ => none
  | error => some error.message

end ServerError

/-
  Why a talk ends early. Apart from the errors of the server,
  decoding can end in what nobody handles, a value can be
  used as what it is not, or the user can break it off.
-/
inductive TalkError where
  | server (error : ServerError)
  | undecoded (message : String)
  | misuse (cause : Misuse)
  | interrupted

------------------------------------------------------------
-- Talks
------------------------------------------------------------

/-
  The state of a talk: the token of the server, the replies
  that are yet to come, why there is no connection when they
  are used up, and the requests and messages so far.
-/
structure Session where
  token : Value := .null
  replies : List Reply
  silence : String
  requests : List Request := []
  messages : List Log.Message := []

/- A talk with a server, which may end early. -/
abbrev Talk (α : Type) :=
  EStateM TalkError Session α

namespace Talk

/- Log a message about the server. -/
def log
    (level : Log.Level)
    (text : String) : Talk Unit :=
  modify fun session =>
    { session with
      messages :=
        session.messages ++ [.of .server level text] }

def fail
    {α : Type}
    (error : ServerError) : Talk α := do
  if let some text := error.logText? then
    log .error text
  throw (.server error)

def exchange (request : Request) : Talk Reply :=
  modifyGet fun session =>
    let session :=
      { session with
        requests := session.requests ++ [request] }
    match session.replies with
    | [] => (.outage .connection session.silence, session)
    | reply :: rest =>
        (reply, { session with replies := rest })

/- Send a request and wait for the response. -/
def send (request : Request) : Talk Response := do
  match ← exchange request with
  | .response response => return response
  | .outage kind reason =>
      fail (.outage kind request.url reason)
  | .interruption => throw .interrupted

def document
    (request : Request)
    (response : Response) : Talk Value := do
  let url := response.origin request
  if response.isError then
    fail (.status response.status url)
  match response.document with
  | .ok value => return value
  | .error (.malformed reason) => fail (.notJson url reason)
  | .error (.unhandled message) => throw (.undecoded message)

end Talk

end PocketDart
