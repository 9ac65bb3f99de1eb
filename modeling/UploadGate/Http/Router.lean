import UploadGate.ApiDocument.Service
import UploadGate.Deployment
import UploadGate.Http.Headers
import UploadGate.Http.MediaType
import UploadGate.Http.Route

/-! # Answering requests

A request passes these stations in order: its path must be known; for a guarded route there must be
a user; the method must be the route's; the name of the form must be a text; the body of a
submission must come under a media type for JSON, not be too large, and be JSON of the right shape;
the form must exist; and then the service decides. The first station that refuses makes the answer.
Every answer but that to a request for options bears the identifier of the request, either the one
that came along or a fresh one.
-/

namespace UploadGate.Http

structure Request where
  method : String
  target : String
  headers : Headers
  /-- The body, whose bytes are taken as UTF-8. -/
  body : String

structure Response where
  status : Nat
  /-- The identifier of the request. -/
  requestId : Option String
  /-- The body, if it is JSON. -/
  body : Option Json.Value

namespace Router

/-- What a route answers, before the identifier is added. -/
structure Reply where
  status : Nat
  body : Option Json.Value

/-- A reply of the framework around the routes, whose body is no JSON. -/
def Reply.plain (status : Nat) : Reply := ⟨status, none⟩

def Reply.ofError (error : ServiceError) : Reply :=
  ⟨error.status, some ((Envelope.ofError error : Envelope Json.Value).toJson id)⟩

/-- A success with data. -/
def Reply.ofData (requestId : String) (data : Json.Value) : Reply :=
  ⟨200, some ((((Envelope.ok data).withService serviceName).withRequestId requestId).toJson id)⟩

def Reply.ofResult {α : Type} (requestId : String) (write : α → Json.Value) :
    Except UploadService.Refusal α → Reply
  | .ok data => ofData requestId (write data)
  | .error refusal => ofError refusal.toError

def unauthorized : ServiceError := .unauthorized "missing x-remote-user header"

/-- The version of the service. -/
def version : String := "0.1.0"

def healthJson (deployment : Deployment) : Json.Value :=
  .ofMembers
    [("status", .string "healthy"), ("service", .string serviceName), ("version", .string version),
      ("metadata_database", .bool deployment.settings.databaseUrl.isSome)]

/-- Whether a body comes under a media type for JSON. -/
def hasJsonBody (request : Request) : Bool :=
  ((request.headers.text? "content-type").bind MediaType.ofText?).any MediaType.isJson

/-- The most bytes that a body may have. -/
def bodyLimit : Nat := 2097152

/-- The submission in the body of a request. -/
def submission (request : Request) : Except Reply Form.Submission :=
  if !hasJsonBody request then .error (.plain 415)
  else if bodyLimit < request.body.utf8ByteSize then .error (.plain 413)
  else
    match Json.decode Form.Submission.decoder request.body with
    | .ok submission => .ok submission
    | .error .malformed => .error (.plain 400)
    | .error .mismatch => .error (.plain 422)

/-- Find the form of a name and go on with it. -/
def withKind (name : String) (next : Form.Kind → Reply) : Reply :=
  match Form.Kind.ofName name with
  | .ok kind => next kind
  | .error error => .ofError error

/-- Read the name of a form from its segment and go on with it. -/
def withName (segment : List Char) (next : String → Reply) : Reply :=
  match Text.Percent.decodeText? segment with
  | some name => next name
  | none => .plain 400

/-- Answer a request whose method is the route's, on behalf of a user. -/
def serve (deployment : Deployment) (requestId user : String) (request : Request) : Route → Reply
  | .databases =>
    .ofResult requestId (fun choices => .array (choices.map Choice.toJson))
      (deployment.service.choices user)
  | .forms => .ofData requestId (.array (Form.summaries.map Form.Summary.toJson))
  | .form segment =>
    withName segment fun name => withKind name fun kind =>
      .ofResult requestId Form.View.toJson (deployment.service.formView kind user)
  | .validate segment =>
    withName segment fun name =>
      match submission request with
      | .error reply => reply
      | .ok submission => withKind name fun kind =>
        .ofResult requestId Form.Upload.toJson (deployment.service.validate kind user submission)
  | .health => ⟨200, some (healthJson deployment)⟩
  | .apiDocs => ⟨200, some ApiDocument.service.toJson⟩

/-- Whether a route takes a method. A request for the head of an answer counts as one for it. -/
def takes (route : Route) (method : String) : Bool :=
  match route.method with
  | .get => method = "GET" || method = "HEAD"
  | .post => method = "POST"

def serveMethod (deployment : Deployment) (requestId user : String) (request : Request)
    (route : Route) : Reply :=
  if takes route request.method then serve deployment requestId user request route
  else .plain 405

/-- Answer a request for a route, if its user may have the answer. -/
def serveRoute (deployment : Deployment) (requestId : String) (request : Request) (route : Route) :
    Reply :=
  if route.isGuarded then
    match request.headers.remoteUser? with
    | some user => serveMethod deployment requestId user request route
    | none => .ofError unauthorized
  else serveMethod deployment requestId "" request route

def reply (deployment : Deployment) (requestId : String) (request : Request) : Reply :=
  match Route.ofPath? (Route.pathOf request.target) with
  | some route => serveRoute deployment requestId request route
  | none => .plain 404

end Router

/-- Answer a request. The answer to a request for the head alone has no body. -/
def respond (deployment : Deployment) (freshId : String) (request : Request) : Response :=
  if request.method = "OPTIONS" then ⟨200, none, none⟩
  else
    let requestId := request.headers.requestId?.getD freshId
    let reply := Router.reply deployment requestId request
    ⟨reply.status, some requestId, if request.method = "HEAD" then none else reply.body⟩

end UploadGate.Http
