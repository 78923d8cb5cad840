import LanguageSession.CommandLine.Usage
import LanguageSession.Text.Similarity

/-!
Options among the arguments of a command.  A long option stands alone, and its value
follows an equals sign or is the next argument; short options may stand together in
one argument, and the rest of the argument is the value of the first one that takes
one.  Two hyphens end the options.
-/

namespace LanguageSession

namespace CommandLine

/-- An option that a command knows, and the key under which it is reported. -/
structure OptionRule (Key : Type) where
  key : Key
  names : List Text
  letters : List CodePoint := []
  takesValue : Bool := true

/-- An option that was given, with an empty value if it takes none. -/
structure Given (Key : Type) where
  key : Key
  value : Text
  deriving Repr

/-- What one argument says. -/
structure Reading (Key : Type) where
  given : List (Given Key)
  /-- An option, by its key and as it was written, whose value is the next argument. -/
  waiting : Option (Key × Text) := none

variable {Key : Type}

def hyphen : CodePoint := CodePoint.ofChar '-'

/-- Everything up to an equals sign, and what follows it. -/
def splitValue (argument : Text) : Text × Option Text :=
  let isEquals (c : CodePoint) : Bool := c = CodePoint.ofChar '='
  match argument.dropWhile fun c => !isEquals c with
  | [] => (argument, none)
  | _ :: value => (argument.takeWhile fun c => !isEquals c, some value)

/-- Reads an argument as the option with a long name. -/
def readNamed (rule : OptionRule Key) (name : Text) (value : Option Text) :
    Except UsageError (Reading Key) :=
  match rule.takesValue, value with
  | true, some value => .ok ⟨[⟨rule.key, value⟩], none⟩
  | true, none => .ok ⟨[], some (rule.key, name)⟩
  | false, some _ => .error (.unexpectedValue name)
  | false, none => .ok ⟨[⟨rule.key, []⟩], none⟩

/-- Reads short options that stand together. -/
def readLetters (rules : List (OptionRule Key)) : Text → Except UsageError (Reading Key)
  | [] => .ok ⟨[], none⟩
  | letter :: rest =>
    match rules.find? fun rule => rule.letters.contains letter with
    | none => .error (.unknownOption [hyphen, letter] [])
    | some rule =>
      if rule.takesValue then
        if rest.isEmpty then .ok ⟨[], some (rule.key, [hyphen, letter])⟩
        else .ok ⟨[⟨rule.key, rest⟩], none⟩
      else
        match readLetters rules rest with
        | .error error => .error error
        | .ok later => .ok { later with given := ⟨rule.key, []⟩ :: later.given }

/-- Reads an argument that begins with a hyphen: long names first, then letters. -/
def readOption (rules : List (OptionRule Key)) (argument : Text) :
    Except UsageError (Reading Key) :=
  let (name, value) := splitValue argument
  match rules.find? fun rule => rule.names.contains name with
  | some rule => readNamed rule name value
  | none =>
    if argument.startsWith "--" then
      .error (.unknownOption name (Text.closeNames (rules.flatMap OptionRule.names) name))
    else readLetters rules (argument.drop 1)

/-- Is an argument one or more options?  A hyphen alone is not. -/
def isOption (argument : Text) : Bool := argument.head? = some hyphen && 1 < argument.length

/-- The options among some arguments, and the other arguments, each in order. -/
structure Scan (Key : Type) where
  given : List (Given Key)
  others : List Text

def Scan.withGiven (given : List (Given Key)) (scan : Scan Key) : Scan Key :=
  { scan with given := given ++ scan.given }

/-- Unless options may be mixed with other arguments, the first of these ends the options. -/
def scan (rules : List (OptionRule Key)) (mixed : Bool) :
    List Text → Except UsageError (Scan Key)
  | [] => .ok ⟨[], []⟩
  | argument :: rest =>
    if argument = "--" then .ok ⟨[], rest⟩
    else if isOption argument then
      match readOption rules argument with
      | .error error => .error error
      | .ok reading =>
        match reading.waiting, rest with
        | none, rest => (scan rules mixed rest).map (Scan.withGiven reading.given)
        | some (_, name), [] => .error (.missingValue name)
        | some (key, _), value :: rest =>
          (scan rules mixed rest).map (Scan.withGiven (reading.given ++ [⟨key, value⟩]))
    else if mixed then
      (scan rules mixed rest).map fun found => { found with others := argument :: found.others }
    else .ok ⟨[], argument :: rest⟩

namespace Scan

variable [BEq Key]

/-- The value of an option; the last one counts. -/
def value? (scan : Scan Key) (key : Key) : Option Text :=
  (scan.given.reverse.find? fun given => given.key == key).map Given.value

def has (scan : Scan Key) (key : Key) : Bool := (scan.value? key).isSome

/-- The keys of the options, each once, in the order in which they first stand. -/
def keys (scan : Scan Key) : List Key := (scan.given.map Given.key).eraseDups

end Scan

end CommandLine

end LanguageSession
