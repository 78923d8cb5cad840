import LanguageSession.Duration
import LanguageSession.Number.Numeral
import LanguageSession.Text.Case

/-!
Settings of a session.  Each can be given by an environment variable; a variable
that is blank or does not hold a sensible value leaves the default in place.
-/

namespace LanguageSession

abbrev Environment := List (Text × Text)

def Environment.value? (environment : Environment) (name : Text) : Option Text :=
  environment.lookup name

structure Settings where
  startTimeout : Duration := .decimal (Double.ofInt 2)
  shutdownGrace : Duration := .decimal (Double.ofRatio false 1 4)
  killGrace : Duration := .decimal (Double.ofInt 1)
  requestTimeout : Duration := .decimal (Double.ofInt 30)
  logLevel : Text := "INFO"
  logDirectory : Option Text := none
  deriving DecidableEq, Repr

namespace Settings

/-- A number of seconds that is at least zero, or the default. -/
def seconds (environment : Environment) (name : Text) (default : Duration) : Duration :=
  match environment.value? name with
  | none => default
  | some text =>
    if text.isBlank then default
    else
      match Numeral.toDouble? text with
      | some value => if value.isNonnegative then .decimal value else default
      | none => default

def ofEnvironment (environment : Environment) : Settings :=
  let default : Settings := {}
  { startTimeout := seconds environment "LSPLINK_START_TIMEOUT" default.startTimeout
    shutdownGrace := seconds environment "LSPLINK_SHUTDOWN_GRACE" default.shutdownGrace
    killGrace := seconds environment "LSPLINK_KILL_GRACE" default.killGrace
    requestTimeout := seconds environment "LSPLINK_REQUEST_TIMEOUT" default.requestTimeout
    logLevel := ((environment.value? "LSPLINK_LOG_LEVEL").getD "INFO").upper
    logDirectory := (environment.value? "LSPLINK_LOG_DIR").filter fun folder => !folder.isEmpty }

end Settings

end LanguageSession
