import LanguageSession.Json.Display

/-!
What can be wrong with a command line, and the wording of each complaint.
-/

namespace LanguageSession

namespace CommandLine

inductive NumberKind where
  | whole
  | decimal
  deriving DecidableEq, Repr

def NumberKind.name : NumberKind → Text
  | .whole => "integer"
  | .decimal => "float"

inductive UsageError where
  /-- An option that nobody knows, and the known ones that are like it. -/
  | unknownOption (name : Text) (similar : List Text)
  | missingValue (option : Text)
  | unexpectedValue (option : Text)
  | missingCommand
  | unknownCommand (name : Text)
  | missingArgument (name : Text)
  | extraArguments (arguments : List Text)
  | notANumber (option value : Text) (kind : NumberKind)
  /-- The value of `--params` is not a JSON text. -/
  | unreadableParams (reason : Text)
  /-- Neither a command of a server nor a language was given. -/
  | noServer
  /-- The server of a language cannot be run. -/
  | unavailableServer (language hint : Text)
  deriving DecidableEq, Repr

def UsageError.message : UsageError → Text
  | .unknownOption name [] => "No such option: " ++ name
  | .unknownOption name [similar] =>
    "No such option: " ++ name ++ " Did you mean " ++ similar ++ "?"
  | .unknownOption name similar =>
    "No such option: " ++ name ++ " (Possible options: " ++
      Text.join ", " (similar.mergeSort Text.isAtMost) ++ ")"
  | .missingValue option => "Option " ++ Json.quoted option ++ " requires an argument."
  | .unexpectedValue option => "Option " ++ Json.quoted option ++ " does not take a value."
  | .missingCommand => "Missing command."
  | .unknownCommand name => "No such command " ++ Json.quoted name ++ "."
  | .missingArgument name => "Missing argument '" ++ name ++ "'."
  | .extraArguments [argument] => "Got unexpected extra argument (" ++ argument ++ ")"
  | .extraArguments arguments =>
    "Got unexpected extra arguments (" ++ Text.join " " arguments ++ ")"
  | .notANumber option value kind =>
    "Invalid value for '" ++ option ++ "': " ++ Json.quoted value ++ " is not a valid " ++
      kind.name ++ "."
  | .unreadableParams reason => "Invalid value for --params: not valid JSON: " ++ reason
  | .noServer => "Give a server command after '--' or pick one with --server"
  | .unavailableServer language hint =>
    "No '" ++ language ++ "' language server available. " ++ hint

end CommandLine

end LanguageSession
