import LanguageSession.Journal
import LanguageSession.Json.Key

/-!
Pending requests.  A registry maps the ids of requests to the handlers that wait for
the responses.  A handler leaves the registry before it is called, so it is called at
most once for each time it was registered.
-/

namespace LanguageSession

/-- What a handler is given: a result, or an error object in its place. -/
structure Completion where
  result : Json
  error : Json
  deriving Repr

namespace Completion

/--
The completion of a response.  Any member named `error` makes it an error, and an
error that is not an object is replaced by an empty one.
-/
def ofResponse (response : Json) : Completion :=
  match response.member? "error" with
  | some error => ⟨.null, if error.isObject then error else .object []⟩
  | none => ⟨response.member "result", .null⟩

def failure (error : Json) : Completion := ⟨.null, error⟩

def arguments (completion : Completion) : List Json := [completion.result, completion.error]

end Completion

/-- Ids and their handlers, the newest one last. -/
structure Registry (Handler : Type) where
  entries : List (Json × Handler) := []

namespace Registry

variable {Handler : Type}

def size (registry : Registry Handler) : Nat := registry.entries.length

def find? (registry : Registry Handler) (id : Json) : Option Handler :=
  (registry.entries.find? fun entry => entry.1.sameKey id).map Prod.snd

/-- Replaces the handler of an id in its place, or adds an entry. -/
def insert (id : Json) (handler : Handler) : List (Json × Handler) → List (Json × Handler)
  | [] => [(id, handler)]
  | entry :: rest =>
    if entry.1.sameKey id then (entry.1, handler) :: rest else entry :: insert id handler rest

def register (registry : Registry Handler) (id : Json) (handler : Handler) :
    Except Fault (Registry Handler) := do
  id.checkKey
  return ⟨insert id handler registry.entries⟩

/--
Removes the handler of an id.  An id that cannot be a key is noticed only when there
is something to compare it with.
-/
def take (registry : Registry Handler) (id : Json) :
    Except Fault (Option Handler × Registry Handler) := do
  unless registry.entries.isEmpty do id.checkKey
  return (registry.find? id, ⟨registry.entries.eraseP fun entry => entry.1.sameKey id⟩)

def contains (registry : Registry Handler) (id : Json) : Except Fault Bool := do
  id.checkKey
  return (registry.find? id).isSome

section

variable {m : Type → Type} [Monad m] [Journaling m] [MonadExceptOf Fault m]
variable [MonadStateOf (Registry Handler) m]

/--
Delivers a response to the handler of its id and says whether there was one.  The
failure of a handler is noted and goes no further.
-/
def resolve (call : Handler → Completion → m Unit) (response : Json) : m Bool := do
  let id := response.member "id"
  let registry ← getThe (Registry Handler)
  let (found, rest) ← MonadExcept.ofExcept (registry.take id)
  match found with
  | none =>
    record (Log.untrackedResponse id)
    return false
  | some handler =>
    set rest
    contain (call handler (Completion.ofResponse response)) (record (Log.handlerFailed id))
    return true

end

end Registry

end LanguageSession
