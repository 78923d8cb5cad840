import LanguageSession.Json.Display

/-!
Messages of the protocol: envelopes that the client sends, the shape of envelopes
that it receives, and the short description of a message in the log.  An envelope is
a JSON object, and its payload is never looked into.
-/

namespace LanguageSession

namespace Message

/-- What an envelope is, by its method and its id. -/
inductive Kind where
  | request
  | response
  | notification
  | invalid
  deriving DecidableEq, Repr

def Kind.name : Kind → Text
  | .request => "request"
  | .response => "response"
  | .notification => "notification"
  | .invalid => "invalid"

/-- The method, if it is a text with a character in it. -/
def method? (message : Json) : Option Text :=
  match message.member "method" with
  | .string [] => none
  | .string name => some name
  | _ => none

/-- A method and an id make a request, a method alone a notification, an id alone a response. -/
def classify (message : Json) : Kind :=
  let hasId := !(message.member "id").isNull
  match method? message with
  | some _ => if hasId then .request else .notification
  | none => if hasId then .response else .invalid

private def version : Text × Json := ("jsonrpc", .literal "2.0")

/-- Parameters may be left out of an envelope, but may not be null. -/
private def parameters (params : Json) : List (Text × Json) :=
  if params.isNull then [] else [("params", params)]

def request (id : Json) (method : Json) (params : Json) : Json :=
  .object ([version, ("id", id), ("method", method)] ++ parameters params)

def notification (method : Json) (params : Json) : Json :=
  .object ([version, ("method", method)] ++ parameters params)

def response (id result : Json) : Json :=
  .object [version, ("id", id), ("result", result)]

def error (code message : Json) : Json :=
  .object [("code", code), ("message", message)]

def errorResponse (id code message : Json) : Json :=
  .object [version, ("id", id), ("error", error code message)]

def initializeParams (root : Json) : Json :=
  let synchronization : Json :=
    .object [("didSave", .bool true), ("willSave", .bool false),
      ("willSaveWaitUntil", .bool false)]
  .object [("processId", .null), ("rootUri", root),
    ("capabilities", .object [("textDocument", .object [("synchronization", synchronization)])])]

def didOpenParams (uri language version text : Json) : Json :=
  .object [("textDocument", .object
    [("uri", uri), ("languageId", language), ("version", version), ("text", text)])]

/-- A change replaces the whole text. -/
def didChangeParams (uri version text : Json) : Json :=
  .object [("textDocument", .object [("uri", uri), ("version", version)]),
    ("contentChanges", .array [.object [("text", text)]])]

def didCloseParams (uri : Json) : Json :=
  .object [("textDocument", .object [("uri", uri)])]

def positionParams (uri line character : Json) : Json :=
  .object [("textDocument", .object [("uri", uri)]),
    ("position", .object [("line", line), ("character", character)])]

def errorText (error : Json) : Text := ((error.member "message").text?).getD []

/-- The folders of a session: its root, unless that is empty. -/
def workspaceFolders (root : Json) : Json :=
  .array (if root.isEmpty then [] else [.object [("uri", root), ("name", .literal "workspace")]])

def methodNotFound : Int := -32601

def invalidParams : Int := -32602

def serverNotInitialized : Int := -32002

def unknownErrorCode : Int := -32001

/-- The line that stands for a message in the log. -/
def describe (message : Json) : Text :=
  let method := message.member "method"
  let id := message.member "id"
  if !method.isEmpty then
    if message.hasMember "id" then "request #" ++ id.display ++ " " ++ method.display
    else "notification " ++ method.display
  else if message.hasMember "error" then "error response #" ++ id.display
  else "response #" ++ id.display

end Message

end LanguageSession
