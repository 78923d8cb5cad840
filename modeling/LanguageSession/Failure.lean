import LanguageSession.Text.Basic

/-!
Failures of the world outside.  A call to the system may fail, and a stream may be
used in a way that it does not allow.  These two kinds are expected and handled where
they arise; a failure of any other kind is passed on as it is.
-/

namespace LanguageSession

inductive FailureKind where
  /-- A call to the system did not succeed. -/
  | system
  /-- A value was not acceptable, or a stream not usable. -/
  | value
  | other
  deriving DecidableEq, Repr

structure Failure where
  kind : FailureKind
  /-- What the failure is called. -/
  name : Text
  reason : Text
  deriving DecidableEq, Repr

namespace Failure

def isSystem (failure : Failure) : Bool := failure.kind = .system

def isExpected (failure : Failure) : Bool := failure.kind ≠ .other

end Failure

end LanguageSession
