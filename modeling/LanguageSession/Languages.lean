import LanguageSession.Association
import LanguageSession.CommandWords
import LanguageSession.FilePath
import LanguageSession.Settings

/-!
Language servers and the languages they handle.  There is a preset for each language
that is known from the start; an environment variable can replace the command of a
preset, and further servers can be registered.
-/

namespace LanguageSession

structure Launcher where
  /-- The identifier of the language in the protocol. -/
  languageId : Text
  extensions : List Text
  command : Text
  arguments : List Text := []
  deriving DecidableEq, Repr

namespace Launcher

def argv (launcher : Launcher) : List Text := launcher.command :: launcher.arguments

def isAvailable (launcher : Launcher) (commands : List Text) : Bool :=
  !launcher.command.isEmpty && commands.contains launcher.command

end Launcher

/-- Languages and how their servers are launched, in order of preference. -/
structure Languages where
  launchers : List (Text × Launcher)
  deriving DecidableEq, Repr

namespace Languages

def presets : List (Text × Launcher) :=
  [("cpp", ⟨"cpp", [".cpp", ".hpp", ".cc", ".cxx", ".hxx", ".ino"], "clangd",
      ["--background-index=false"]⟩),
    ("c", ⟨"c", [".c", ".h"], "clangd", []⟩),
    ("arduino", ⟨"cpp", [".ino", ".pde"], "arduino-language-server", []⟩),
    ("python", ⟨"python", [".py", ".pyi"], "pyright-langserver", ["--stdio"]⟩),
    ("typescript", ⟨"typescript", [".ts", ".tsx"], "typescript-language-server", ["--stdio"]⟩),
    ("go", ⟨"go", [".go"], "gopls", ["serve"]⟩),
    ("rust", ⟨"rust", [".rs"], "rust-analyzer", []⟩)]

def installHints : List (Text × Text) :=
  [("cpp", "Install clangd (e.g., apt install clangd, brew install llvm)"),
    ("c", "Install clangd (e.g., apt install clangd, brew install llvm)"),
    ("arduino", "go install github.com/arduino/arduino-language-server@latest"),
    ("python", "pip install pyright"),
    ("typescript", "npm install -g typescript-language-server typescript"),
    ("go", "go install golang.org/x/tools/gopls@latest"),
    ("rust", "rustup component add rust-analyzer")]

def installHint (language : Text) : Text :=
  (installHints.lookup language).getD ("Install an LSP server for " ++ language)

def commandVariable (language : Text) : Text := "LSPLINK_LSP_" ++ language.upper ++ "_CMD"

/-- A preset with the command of its variable, unless that holds no word. -/
def customize (environment : Environment) (entry : Text × Launcher) :
    Except QuotingError (Text × Launcher) := do
  let line := (environment.value? (commandVariable entry.1)).getD []
  match ← CommandWords.split line with
  | [] => return entry
  | command :: arguments =>
    return (entry.1, { entry.2 with command := command, arguments := arguments })

def ofEnvironment (environment : Environment) : Except QuotingError Languages := do
  return ⟨← presets.mapM (customize environment)⟩

/-- A table that is built when it is first asked for and kept from then on. -/
def fetch (kept : Option Languages) (environment : Environment) :
    Except QuotingError Languages :=
  match kept with
  | some languages => .ok languages
  | none => ofEnvironment environment

def suffixOf (path : Text) : Text := (FilePath.suffix path).lower

def forFile? (languages : Languages) (commands : List Text) (path : Text) : Option Launcher :=
  (languages.launchers.map Prod.snd).find? fun launcher =>
    launcher.extensions.contains (suffixOf path) && launcher.isAvailable commands

def forLanguage? (languages : Languages) (commands : List Text) (language : Text) :
    Option Launcher :=
  (languages.launchers.lookup language.lower).filter fun launcher => launcher.isAvailable commands

def availability (languages : Languages) (commands : List Text) : List (Text × Bool) :=
  languages.launchers.map fun entry => (entry.1, entry.2.isAvailable commands)

/-- A language that has a launcher keeps its place in the order. -/
def register (languages : Languages) (language : Text) (launcher : Launcher) : Languages :=
  ⟨Association.put language launcher languages.launchers⟩

def identify (path default : Text) : Text :=
  let handles (launcher : Launcher) : Bool := launcher.extensions.contains (suffixOf path)
  (((presets.map Prod.snd).find? handles).map Launcher.languageId).getD default

end Languages

end LanguageSession
