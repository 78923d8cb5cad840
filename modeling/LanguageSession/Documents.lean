import LanguageSession.Association
import LanguageSession.Text.Basic

/-!
Versions of open documents.  Opening a document sets its version to one, every
change adds one, and closing forgets it.  A change of a document that is not open
counts from version one.
-/

namespace LanguageSession

structure Documents where
  versions : List (Text × Nat) := []
  deriving DecidableEq, Repr

namespace Documents

def version? (documents : Documents) (uri : Text) : Option Nat := documents.versions.lookup uri

def isOpen (documents : Documents) (uri : Text) : Bool := (documents.version? uri).isSome

def nextVersion (documents : Documents) (uri : Text) : Nat :=
  (documents.version? uri).getD 1 + 1

def openDocument (documents : Documents) (uri : Text) : Documents :=
  ⟨Association.put uri 1 documents.versions⟩

def change (documents : Documents) (uri : Text) : Documents :=
  ⟨Association.put uri (documents.nextVersion uri) documents.versions⟩

def close (documents : Documents) (uri : Text) : Documents :=
  ⟨documents.versions.filter fun entry => entry.1 ≠ uri⟩

def size (documents : Documents) : Nat := documents.versions.length

/-- The open documents, in the order of their code points. -/
def uris (documents : Documents) : List Text :=
  (documents.versions.map Prod.fst).mergeSort Text.isAtMost

end Documents

end LanguageSession
