import LanguageSession.Fault
import LanguageSession.Log.Record

/-!
Answers to requests of the server.  Four methods are acknowledged with a null
result, two are answered with what the session knows, and all others get an error.
-/

namespace LanguageSession

namespace Answer

def acknowledged : List Text :=
  ["window/workDoneProgress/create", "client/registerCapability", "client/unregisterCapability",
    "window/showMessageRequest"]

def configuration (params : Json) : Json :=
  .array (((params.member "items").array?.getD []).map fun _ => .object [])

/-- The reply to a request and, if the method is unknown, a note about it. -/
structure Reply where
  envelope : Json
  note : Option Log.Record
  deriving Repr

def toMethod (id method params : Json) (root : Text) : Reply :=
  let known (name : Text) : Bool := method.text? = some name
  if acknowledged.any known then ⟨Message.response id .null, none⟩
  else if known "workspace/configuration" then
    ⟨Message.response id (configuration params), none⟩
  else if known "workspace/workspaceFolders" then
    ⟨Message.response id (Message.workspaceFolders root), none⟩
  else
    ⟨Message.errorResponse id (.integer Message.methodNotFound) (.literal "Method not found"),
      some (Log.unsupportedRequest method)⟩

/-- The reply to a request envelope; a list or an object is no method at all. -/
def reply (message : Json) (root : Text) : Except Fault Reply :=
  match message.member "method" with
  | .array items => .error (.unhashable (Json.array items).kindName)
  | .object members => .error (.unhashable (Json.object members).kindName)
  | method => .ok (toMethod (message.member "id") method (message.member "params") root)

end Answer

end LanguageSession
