import Mathlib
import LanguageSession.Documents
import LanguageSession.Proofs.Association

/-!
# Versions of documents

What is done to one document leaves the versions of the others.
-/

namespace LanguageSession

namespace Documents

variable (documents : Documents) (uri other : Text)

@[simp] theorem version?_empty : ({} : Documents).version? uri = none := rfl

theorem version?_openDocument : (documents.openDocument uri).version? other =
    if other = uri then some 1 else documents.version? other :=
  Association.lookup_put uri other 1 documents.versions

theorem version?_change : (documents.change uri).version? other =
    if other = uri then some (documents.nextVersion uri) else documents.version? other :=
  Association.lookup_put uri other (documents.nextVersion uri) documents.versions

theorem version?_close : (documents.close uri).version? other =
    if other = uri then none else documents.version? other :=
  Association.lookup_filter uri other documents.versions

end Documents

end LanguageSession
