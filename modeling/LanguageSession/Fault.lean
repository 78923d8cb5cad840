import LanguageSession.Duration
import LanguageSession.Failure
import LanguageSession.FileTree
import LanguageSession.Json.Reader

/-!
What can go wrong, by cause.  The wording of every cause stands in one function.
-/

namespace LanguageSession

/-- Why a message has no form on the wire. -/
inductive EncodeError where
  | unserializable (kind : Foreign)
  | surrogates (run : Utf8.SurrogateRun)
  deriving DecidableEq, Repr

def EncodeError.message : EncodeError → Text
  | .unserializable kind =>
    "Message cannot be serialized to JSON: Object of type " ++ kind.name ++
      " is not JSON serializable"
  | .surrogates run => "Message is not valid UTF-8: " ++ run.message

/-- Why a command line cannot be cut into words. -/
inductive QuotingError where
  | openQuotation
  | danglingEscape
  deriving DecidableEq, Repr

def QuotingError.message : QuotingError → Text
  | .openQuotation => "No closing quotation"
  | .danglingEscape => "No escaped character"

inductive Fault where
  | unencodable (error : EncodeError)
  /-- A server did not start. -/
  | notStarted (reason : Text)
  /-- A message was not taken by a server. -/
  | notWritten (reason : Text)
  /-- A list or an object was used as a key. -/
  | unhashable (kind : Text)
  /-- A member of something that is not an object was asked for. -/
  | noMembers (kind : Text)
  /-- Something that holds no values was gone through. -/
  | notIterable (kind : Text)
  /-- A whole number has more digits than are ever written. -/
  | longNumeral
  /-- A text to be read has too many values inside each other. -/
  | tooDeep (container : Json.Container)
  | quoting (error : QuotingError)
  | time (error : TimeError)
  | name (error : NameError)
  /-- A text cannot be written. -/
  | unwritable (run : Utf8.SurrogateRun)
  | folder (error : FolderError)
  /-- The name of a level stands for something of another kind. -/
  | notALevel (kind : Text)
  /-- A callback raised an error of its own. -/
  | raised (reason : Text)
  /-- A failure of the world outside that nobody is prepared for. -/
  | external (failure : Failure)
  /-- More calls nested than were allowed. -/
  | exhausted
  deriving DecidableEq, Repr

def Fault.message : Fault → Text
  | .unencodable error => error.message
  | .notStarted reason => reason
  | .notWritten reason => reason
  | .unhashable kind => "unhashable type: '" ++ kind ++ "'"
  | .noMembers kind => "'" ++ kind ++ "' object has no attribute 'get'"
  | .notIterable kind => "'" ++ kind ++ "' object is not iterable"
  | .longNumeral =>
    "Exceeds the limit (4300 digits) for integer string conversion; " ++
      "use sys.set_int_max_str_digits() to increase the limit"
  | .tooDeep container => (Json.Problem.tooDeep container).message
  | .quoting error => error.message
  | .time error => error.message
  | .name error => error.message
  | .unwritable run => run.message
  | .folder error => error.message
  | .notALevel kind => "'>=' not supported between instances of 'int' and '" ++ kind ++ "'"
  | .raised reason => reason
  | .external failure => failure.reason
  | .exhausted => "too many nested calls"

end LanguageSession
