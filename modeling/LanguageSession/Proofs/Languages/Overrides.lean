import Mathlib
import LanguageSession.Languages
import LanguageSession.Proofs.Traversal

/-!
# Commands from the environment

Every language has a variable of its own, and where all of them can be cut into words, what one
holds changes the entry of its own language and nothing else.  One that cannot be cut into words
leaves no table at all.
-/

namespace LanguageSession

namespace Languages

/-! ## One entry -/

/-- What the variable of a language holds, empty where it is not set. -/
def commandLine (environment : Environment) (language : Text) : Text :=
  (environment.value? (commandVariable language)).getD []

/-- A launcher with the words of a command line, if there are any, in the place of its own. -/
def overridden (line : Text) (launcher : Launcher) : Launcher :=
  match CommandWords.split line with
  | .ok (command :: arguments) => { launcher with command := command, arguments := arguments }
  | _ => launcher

theorem overridden_keeps (line : Text) (launcher : Launcher) :
    (overridden line launcher).languageId = launcher.languageId ∧
      (overridden line launcher).extensions = launcher.extensions := by
  unfold overridden
  split <;> exact ⟨rfl, rfl⟩

def configured (environment : Environment) (entry : Text × Launcher) : Text × Launcher :=
  (entry.1, overridden (commandLine environment entry.1) entry.2)

variable {environment : Environment}

theorem customize_of_words {entry : Text × Launcher} {words : List Text}
    (split : CommandWords.split (commandLine environment entry.1) = .ok words) :
    customize environment entry = .ok (configured environment entry) := by
  unfold commandLine at split
  simp only [customize, configured, overridden, commandLine, split]
  cases words <;> rfl

theorem customize_of_unquoted {entry : Text × Launcher} {error : QuotingError}
    (split : CommandWords.split (commandLine environment entry.1) = .error error) :
    customize environment entry = .error error := by
  unfold commandLine at split
  simp only [customize, split]
  rfl

/-- The presets, each as the command line of its language has it. -/
def configuredPresets (environment : Environment) : Languages :=
  ⟨presets.map (configured environment)⟩

theorem ofEnvironment_of_words
    (words : ∀ entry ∈ presets, ∃ words,
      CommandWords.split (commandLine environment entry.1) = .ok words) :
    ofEnvironment environment = .ok (configuredPresets environment) := by
  have each : ∀ entry ∈ presets,
      customize environment entry = .ok (configured environment entry) := by
    intro entry member
    obtain ⟨words, split⟩ := words entry member
    exact customize_of_words split
  rw [ofEnvironment, mapM_eq_map each]
  rfl

theorem ofEnvironment_of_unquoted {before after : List (Text × Launcher)}
    {entry : Text × Launcher} {error : QuotingError} (parts : presets = before ++ entry :: after)
    (words : ∀ earlier ∈ before, ∃ words,
      CommandWords.split (commandLine environment earlier.1) = .ok words)
    (split : CommandWords.split (commandLine environment entry.1) = .error error) :
    ofEnvironment environment = .error error := by
  have succeeds : ∀ earlier ∈ before, ∃ result, customize environment earlier = .ok result := by
    intro earlier member
    obtain ⟨words, split⟩ := words earlier member
    exact ⟨_, customize_of_words split⟩
  rw [ofEnvironment, parts, mapM_append_of_error succeeds (customize_of_unquoted split)]
  rfl

/-- Either every variable can be cut into words, or there is a first one that cannot. -/
theorem ofEnvironment_cases (environment : Environment) :
    (∀ entry ∈ presets, ∃ words,
        CommandWords.split (commandLine environment entry.1) = .ok words) ∧
      ofEnvironment environment = .ok (configuredPresets environment) ∨
    ∃ before entry after error, presets = before ++ entry :: after ∧
      (∀ earlier ∈ before, ∃ words,
        CommandWords.split (commandLine environment earlier.1) = .ok words) ∧
      CommandWords.split (commandLine environment entry.1) = .error error ∧
      ofEnvironment environment = .error error := by
  rcases all_ok_or_first_error
    (fun entry => CommandWords.split (commandLine environment entry.1)) presets with
    words | ⟨before, entry, after, error, parts, words, fails⟩
  · exact .inl ⟨words, ofEnvironment_of_words words⟩
  · exact .inr ⟨before, entry, after, error, parts, words, fails,
      ofEnvironment_of_unquoted parts words fails⟩

theorem eq_of_ofEnvironment {table : Languages} (built : ofEnvironment environment = .ok table) :
    table = configuredPresets environment := by
  rcases ofEnvironment_cases environment with ⟨-, ends⟩ | ⟨_, _, _, _, -, -, -, fails⟩
  · rw [ends] at built
    exact (Except.ok.inj built).symm
  · rw [fails] at built
    cases built

/-! ## Two environments -/

theorem commandVariable_injective : ∀ first ∈ presets, ∀ second ∈ presets,
    commandVariable first.1 = commandVariable second.1 → first.1 = second.1 := by
  decide +kernel

theorem languages_nodup : (presets.map Prod.fst).Nodup := by
  decide +kernel

/-- The environments differ at most in what one variable holds. -/
def AgreeBut (variableName : Text) (first second : Environment) : Prop :=
  ∀ name, name ≠ variableName → first.value? name = second.value? name

/--
The tables answer alike for every language but one, and for every file that the preset of this one
does not handle.
-/
def AnswerAlikeBut (preset : Text × Launcher) (first second : Languages) : Prop :=
  ∀ commands,
    (∀ name : Text, name.lower ≠ preset.1 →
      first.forLanguage? commands name = second.forLanguage? commands name) ∧
    ∀ path, suffixOf path ∉ preset.2.extensions →
      first.forFile? commands path = second.forFile? commands path

theorem configured_eq {first second : Environment} {changed entry : Text × Launcher}
    (agree : AgreeBut (commandVariable changed.1) first second) (known : changed ∈ presets)
    (member : entry ∈ presets) (other : entry.1 ≠ changed.1) :
    configured first entry = configured second entry := by
  have own : commandVariable entry.1 ≠ commandVariable changed.1 := fun same =>
    other (commandVariable_injective entry member changed known same)
  rw [configured, configured, commandLine, commandLine, agree _ own]

theorem lookup_map_congr {α β : Type} {first second : α × β → α × β} [BEq α] [LawfulBEq α]
    {entries : List (α × β)} {key : α}
    (kept : ∀ entry, (first entry).1 = entry.1 ∧ (second entry).1 = entry.1)
    (same : ∀ entry ∈ entries, entry.1 = key → first entry = second entry) :
    (entries.map first).lookup key = (entries.map second).lookup key := by
  induction entries with
  | nil => rfl
  | cons entry rest ih =>
      have ih := ih fun other member => same other (List.mem_cons_of_mem _ member)
      obtain ⟨kept, kept'⟩ := kept entry
      by_cases found : entry.1 = key
      · rw [List.map_cons, List.map_cons, List.lookup_cons, List.lookup_cons,
          same entry List.mem_cons_self found, ih]
      · have missed : (key == entry.1) = false := beq_false_of_ne (Ne.symm found)
        rw [List.map_cons, List.map_cons, List.lookup_cons, List.lookup_cons, kept, kept', missed,
          ih]

theorem find?_map_congr {α β : Type} {first second : α → β} {test : β → Bool} {items : List α}
    (same : ∀ item ∈ items, first item = second item ∨
      test (first item) = false ∧ test (second item) = false) :
    (items.map first).find? test = (items.map second).find? test := by
  induction items with
  | nil => rfl
  | cons item rest ih =>
      have ih := ih fun other member => same other (List.mem_cons_of_mem _ member)
      rcases same item List.mem_cons_self with equal | ⟨fails, fails'⟩
      · rw [List.map_cons, List.map_cons, List.find?_cons, List.find?_cons, equal, ih]
      · rw [List.map_cons, List.map_cons, List.find?_cons_of_neg (by simp [fails]),
          List.find?_cons_of_neg (by simp [fails']), ih]

theorem eq_of_language_eq {first second : Text × Launcher} (member : first ∈ presets)
    (member' : second ∈ presets) (same : first.1 = second.1) : first = second :=
  List.inj_on_of_nodup_map languages_nodup member member' same

theorem configuredPresets_alike {first second : Environment} {changed : Text × Launcher}
    (agree : AgreeBut (commandVariable changed.1) first second) (known : changed ∈ presets) :
    AnswerAlikeBut changed (configuredPresets first) (configuredPresets second) := by
  refine fun commands => ⟨fun name other => ?_, fun path unlisted => ?_⟩
  · have found : (presets.map (configured first)).lookup name.lower =
        (presets.map (configured second)).lookup name.lower :=
      lookup_map_congr (fun _ => ⟨rfl, rfl⟩) fun entry member named =>
        configured_eq agree known member (named ▸ other)
    rw [forLanguage?, forLanguage?, configuredPresets, configuredPresets, found]
  · rw [forFile?, forFile?, configuredPresets, configuredPresets, List.map_map, List.map_map]
    refine find?_map_congr fun entry member => ?_
    by_cases same : entry.1 = changed.1
    · obtain rfl := eq_of_language_eq member known same
      right
      simp [configured, (overridden_keeps _ entry.2).2, unlisted]
    · left
      exact congrArg Prod.snd (configured_eq agree known member same)

/-! ## The table of an environment -/

/--
If every variable can be cut into words there is a table of the presets in their order, each with
its language identifier and suffixes and with the words of its own variable where it holds any;
otherwise the first variable that cannot be leaves no table.  Where there is a table, another value
of one variable changes no answer for another language, and none for a file that the language of
the variable does not handle.
-/
theorem overrides_isolated (environment : Environment) :
    ((∀ entry ∈ presets, ∃ words,
          CommandWords.split (commandLine environment entry.1) = .ok words) ∧
        ofEnvironment environment = .ok (configuredPresets environment) ∨
      ∃ before entry after error, presets = before ++ entry :: after ∧
        (∀ earlier ∈ before, ∃ words,
          CommandWords.split (commandLine environment earlier.1) = .ok words) ∧
        CommandWords.split (commandLine environment entry.1) = .error error ∧
        ofEnvironment environment = .error error) ∧
    ((configuredPresets environment).launchers.map
        (fun entry => (entry.1, entry.2.languageId, entry.2.extensions)) =
      presets.map fun entry => (entry.1, entry.2.languageId, entry.2.extensions)) ∧
    ∀ changed ∈ presets, ∀ other, AgreeBut (commandVariable changed.1) environment other →
      ∀ table table', ofEnvironment environment = .ok table → ofEnvironment other = .ok table' →
        AnswerAlikeBut changed table table' := by
  refine ⟨ofEnvironment_cases environment, ?_, ?_⟩
  · rw [configuredPresets, List.map_map]
    refine List.map_congr_left fun entry _ => ?_
    obtain ⟨identifier, extensions⟩ :=
      overridden_keeps (commandLine environment entry.1) entry.2
    simp [configured, identifier, extensions]
  · intro changed known other agree table table' begins begins'
    rw [eq_of_ofEnvironment begins, eq_of_ofEnvironment begins']
    exact configuredPresets_alike agree known

/-- The variable of one language holds a quotation mark that is never closed. -/
def unclosed : Environment := [(commandVariable "go", "gopls 'serve")]

theorem unclosed_denies_others :
    ofEnvironment unclosed = .error .openQuotation ∧
      forLanguage? (configuredPresets unclosed) ["clangd"] "cpp" =
        some ⟨"cpp", [".cpp", ".hpp", ".cc", ".cxx", ".hxx", ".ino"], "clangd",
          ["--background-index=false"]⟩ := by
  decide +kernel

end Languages

end LanguageSession
