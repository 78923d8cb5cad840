import LanguageSession.Json.Access
import LanguageSession.Json.Display
import LanguageSession.Json.Key
import LanguageSession.Json.Writer
import LanguageSession.Languages
import LanguageSession.Terminal.Output

/-!
What is shown for the outcome of a command: short lines, tables of diagnostics and of
servers, and results as JSON.
-/

namespace LanguageSession

namespace Terminal

def styled (style sign text : Text) : Output :=
  .line ("[" ++ style ++ "]" ++ sign ++ " " ++ text ++ "[/" ++ style ++ "]") []

def success (text : Text) : Output := styled "bold green" "✓" text

def warning (text : Text) : Output := styled "bold yellow" "!" text

def failure (text : Text) : Output := styled "bold red" "✗" text

def serverLine (text : Text) : Output :=
  .line text [("style", .literal "dim"), ("markup", .bool false), ("highlight", .bool false)]

def result (value : Json) : Output := .json value.spaced

/-! ## Diagnostics -/

/-- The name of a severity and the style it is shown in. -/
structure Severity where
  name : Text
  style : Text
  deriving DecidableEq, Repr

def severities : List (Json × Severity) :=
  [(.integer 1, ⟨"error", "red"⟩), (.integer 2, ⟨"warning", "yellow"⟩),
    (.integer 3, ⟨"info", "cyan"⟩), (.integer 4, ⟨"hint", "dim"⟩)]

/-- Severities are looked up as keys; unknown ones are shown as a dash. -/
def severity (value : Json) : Severity :=
  ((severities.find? fun entry => entry.1.sameKey value).map Prod.snd).getD ⟨"-", "white"⟩

/-- Lines are counted from zero in the protocol and from one for people. -/
def lineNumber (line : Json) : Except Fault Text :=
  let counted : Option Int :=
    match line with
    | .integer n => some (n + 1)
    | .bool value => some (if value then 2 else 1)
    | _ => none
  match counted with
  | none => .ok []
  | some n =>
    if Double.digitCount n.natAbs ≤ Numeral.digitLimit then .ok (Text.ofInt n)
    else .error .longNumeral

/-- The row of one diagnostic of a document. -/
def diagnosticRow (uri : Text) (diagnostic : Json) : Except Fault (List Text) := do
  let range ← diagnostic.memberOrEmpty "range"
  let start ← range.memberOrEmpty "start"
  let line ← start.memberOrEmpty "line"
  let value := diagnostic.member "severity"
  value.checkKey
  let severity := severity value
  let message := (diagnostic.member? "message").getD (.string [])
  return [uri, ← lineNumber line,
    "[" ++ severity.style ++ "]" ++ severity.name ++ "[/" ++ severity.style ++ "]",
    message.display]

/-- The rows of a document.  Diagnostics that are not objects are skipped. -/
def diagnosticRows (uri : Text) (found : Json) : Except Fault (List (List Text)) := do
  ((← found.items).filter Json.isObject).mapM (diagnosticRow uri)

def diagnosticColumns : List Column :=
  [⟨"Document", [("style", .literal "cyan")]⟩,
    ⟨"Line", [("style", .literal "dim"), ("justify", .literal "right")]⟩,
    ⟨"Severity", []⟩, ⟨"Message", [("style", .literal "white")]⟩]

/-- A table of the diagnostics of all documents. -/
def diagnostics (published : List (Text × Json)) : Except Fault Output := do
  if published.all fun (_, found) => found.isEmpty then
    return .line "[dim]No diagnostics published[/dim]" []
  else
    let rows ← published.mapM fun (uri, found) => diagnosticRows uri found
    return .table "Diagnostics" diagnosticColumns rows.flatten

/-! ## Servers -/

def serverColumns : List Column :=
  [⟨"Language", [("style", .literal "cyan"), ("no_wrap", .bool true)]⟩,
    ⟨"Command", [("style", .literal "white")]⟩, ⟨"Extensions", [("style", .literal "dim")]⟩,
    ⟨"Available", []⟩]

/-- A table of servers; one that is not in the list of availability is not available. -/
def servers (launchers : List (Text × Launcher)) (availability : List (Text × Bool)) : Output :=
  .table "Language Servers" serverColumns <|
    launchers.map fun (language, launcher) =>
      [language, Text.join " " launcher.argv, Text.join ", " launcher.extensions,
        if (availability.lookup language).getD false then "[green]✓ Yes[/green]"
        else "[red]✗ No[/red]"]

end Terminal

end LanguageSession
