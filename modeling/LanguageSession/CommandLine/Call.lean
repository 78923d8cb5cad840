import LanguageSession.CommandLine.Options
import LanguageSession.Duration
import LanguageSession.Number.Numeral
import LanguageSession.Text.Alphanumeric

/-!
Commands and what they are asked to do.  The command line begins with options for all
commands, then names the command, and goes on with the arguments of the command.
-/

namespace LanguageSession

namespace CommandLine

inductive Key where
  | help
  | logDirectory
  | logLevel
  | server
  | root
  | openFile
  | language
  | wait
  | verbose
  | quiet
  | params
  | line
  | character
  | timeout
  deriving DecidableEq, Repr

inductive Command where
  | servers
  | probe
  | request
  deriving DecidableEq, Repr

def commands : List (Text × Command) :=
  [("servers", .servers), ("probe", .probe), ("request", .request)]

/-- Why there is nothing to do: help was asked for, or something is wrong. -/
inductive Refusal where
  | help
  | misuse (error : UsageError)
  deriving DecidableEq, Repr

/-! ## Options -/

def helpRule : OptionRule Key := ⟨.help, ["--help"], [], false⟩

def globalRules : List (OptionRule Key) :=
  [⟨.logDirectory, ["--log-dir"], [], true⟩, ⟨.logLevel, ["--log-level"], [], true⟩, helpRule]

def serverRules : List (OptionRule Key) :=
  [⟨.server, ["--server"], [CodePoint.ofChar 's'], true⟩, ⟨.root, ["--root"], [], true⟩,
    ⟨.openFile, ["--open"], [], true⟩, ⟨.language, ["--language"], [], true⟩,
    ⟨.verbose, ["--verbose"], [], false⟩, ⟨.quiet, ["--quiet"], [], false⟩, helpRule]

def rulesOf : Command → List (OptionRule Key)
  | .servers => [helpRule]
  | .probe => ⟨.wait, ["--wait"], [], true⟩ :: serverRules
  | .request =>
    [⟨.params, ["--params"], [], true⟩, ⟨.line, ["--line"], [], true⟩,
      ⟨.character, ["--character"], [], true⟩, ⟨.timeout, ["--timeout"], [], true⟩] ++ serverRules

/-- The options whose values are numbers. -/
def numberKind? : Key → Option (Text × NumberKind)
  | .wait => some ("--wait", .decimal)
  | .timeout => some ("--timeout", .decimal)
  | .line => some ("--line", .whole)
  | .character => some ("--character", .whole)
  | _ => none

def NumberKind.accepts (kind : NumberKind) (value : Text) : Bool :=
  match kind with
  | .whole => (Numeral.toInt? value).isSome
  | .decimal => (Numeral.toDouble? value).isSome

/-- Why the value of an option is not one that it can have. -/
def valueError? (scan : Scan Key) (key : Key) : Option UsageError :=
  match numberKind? key, scan.value? key with
  | some (name, kind), some value =>
    if kind.accepts value then none else some (.notANumber name value kind)
  | _, _ => none

/-- Options and other arguments, if help was not asked for and all values are possible. -/
def readArguments (rules : List (OptionRule Key)) (mixed : Bool) (arguments : List Text) :
    Except Refusal (Scan Key) :=
  match scan rules mixed arguments with
  | .error error => .error (.misuse error)
  | .ok found =>
    if found.has .help then .error .help
    else
      match found.keys.findSome? (valueError? found) with
      | some error => .error (.misuse error)
      | none => .ok found

/-! ## Calls -/

/-- Which server to talk to, and about what. -/
structure Target where
  /-- The command line of the server, empty if a language stands for it. -/
  argv : List Text
  server : Option Text
  root : Option Text
  openFile : Option Text
  language : Option Text
  verbose : Bool
  deriving DecidableEq, Repr

/-- A request to send. -/
structure Inquiry where
  method : Text
  /-- Its parameters as a JSON text. -/
  params : Option Text
  line : Int
  character : Int
  timeout : Option Duration
  deriving DecidableEq, Repr

inductive Call where
  | servers
  /-- Shows the diagnostics that a server publishes while it is waited for them. -/
  | probe (target : Target) (wait : Duration)
  | request (target : Target) (inquiry : Inquiry)
  deriving DecidableEq, Repr

/-- A command line up to the arguments of its command. -/
structure Opening where
  logDirectory : Option Text
  logLevel : Option Text
  command : Command
  arguments : List Text
  deriving DecidableEq, Repr

/-- A name that does not begin with a letter or a digit is a call for help. -/
def unknownCommand (name : Text) : Refusal :=
  match name with
  | [] => .misuse (.unknownCommand name)
  | c :: _ => if c.isAlphanumeric then .misuse (.unknownCommand name) else .help

def readOpening (arguments : List Text) : Except Refusal Opening :=
  if arguments.isEmpty then .error .help
  else
    match readArguments globalRules false arguments with
    | .error refusal => .error refusal
    | .ok found =>
      match found.others with
      | [] => .error (.misuse .missingCommand)
      | name :: rest =>
        match commands.lookup name with
        | none => .error (unknownCommand name)
        | some command =>
          .ok ⟨found.value? .logDirectory, found.value? .logLevel, command, rest⟩

/-- An option that switches something on, unless a later one switches it off. -/
def isVerbose (found : Scan Key) : Bool :=
  match found.given.reverse.find? fun given => given.key = .verbose || given.key = .quiet with
  | some given => given.key = .verbose
  | none => false

def target (found : Scan Key) (argv : List Text) : Target where
  argv := argv
  server := found.value? .server
  root := found.value? .root
  openFile := found.value? .openFile
  language := found.value? .language
  verbose := isVerbose found

def seconds? (found : Scan Key) (key : Key) : Option Duration :=
  ((found.value? key).bind Numeral.toDouble?).map .decimal

/-- How long diagnostics are waited for, two seconds unless something else is asked for. -/
def patience (found : Scan Key) : Duration :=
  (seconds? found .wait).getD (.decimal (Double.ofInt 2))

def inquiry (found : Scan Key) (method : Text) : Inquiry where
  method := method
  params := found.value? .params
  line := ((found.value? .line).bind Numeral.toInt?).getD 0
  character := ((found.value? .character).bind Numeral.toInt?).getD 0
  timeout := seconds? found .timeout

/-- What a command is asked to do by its arguments. -/
def readCall (command : Command) (arguments : List Text) : Except Refusal Call :=
  match readArguments (rulesOf command) true arguments with
  | .error refusal => .error refusal
  | .ok found =>
    match command, found.others with
    | .servers, [] => .ok .servers
    | .servers, extra => .error (.misuse (.extraArguments extra))
    | .probe, argv => .ok (.probe (target found argv) (patience found))
    | .request, [] => .error (.misuse (.missingArgument "METHOD"))
    | .request, method :: argv => .ok (.request (target found argv) (inquiry found method))

end CommandLine

end LanguageSession
