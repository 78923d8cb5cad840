import Mathlib
import LanguageSession.Proofs.Languages.Overrides
import LanguageSession.Proofs.Languages.Registration

/-!
# The server of a file and its language

The server of a file is looked up in the table, whose commands may come from the environment and
need not be there; the language of a file is looked up in the presets.  The two lookups may end at
different entries, but presets that share a suffix share their language.
-/

namespace LanguageSession

namespace Languages

variable {commands : List Text} {path : Text}

/-! ## The language of a suffix -/

theorem languageId_eq_of_shared : ∀ first ∈ presets, ∀ second ∈ presets,
    ∀ suffix ∈ first.2.extensions, suffix ∈ second.2.extensions →
      first.2.languageId = second.2.languageId := by
  decide +kernel

theorem identify_of_listed {entry : Text × Launcher} (default : Text) (member : entry ∈ presets)
    (listed : suffixOf path ∈ entry.2.extensions) :
    identify path default = entry.2.languageId := by
  have handled : ∃ launcher ∈ presets.map Prod.snd,
      launcher.extensions.contains (suffixOf path) = true :=
    ⟨entry.2, List.mem_map_of_mem member, List.contains_iff_mem.mpr listed⟩
  obtain ⟨launcher, found⟩ := Option.isSome_iff_exists.mp (List.find?_isSome.mpr handled)
  obtain ⟨other, known, rfl⟩ := List.mem_map.mp (List.mem_of_find?_eq_some found)
  have shared : suffixOf path ∈ other.2.extensions := by simpa using List.find?_some found
  simp only [identify, found, Option.map_some, Option.getD_some]
  exact languageId_eq_of_shared other known entry member _ shared listed

theorem identify_of_unlisted (default : Text)
    (unlisted : ∀ entry ∈ presets, suffixOf path ∉ entry.2.extensions) :
    identify path default = default := by
  have missed : (presets.map Prod.snd).find?
      (fun launcher => launcher.extensions.contains (suffixOf path)) = none := by
    rw [List.find?_eq_none]
    intro launcher member
    obtain ⟨entry, known, rfl⟩ := List.mem_map.mp member
    simpa using unlisted entry known
  simp only [identify, missed, Option.map_none, Option.getD_none]

/-! ## The server of a file -/

/-- The launcher stands in the table, and no launcher before it serves files with this suffix. -/
def IsFirstServing (commands : List Text) (suffix : Text) (languages : Languages)
    (launcher : Launcher) : Prop :=
  ∃ before language after, languages.launchers = before ++ (language, launcher) :: after ∧
    launcher.isAvailable commands = true ∧ suffix ∈ launcher.extensions ∧
    ∀ earlier ∈ before, earlier.2.isAvailable commands = true → suffix ∉ earlier.2.extensions

theorem forFile?_eq_some_iff {languages : Languages} {launcher : Launcher} :
    languages.forFile? commands path = some launcher ↔
      IsFirstServing commands (suffixOf path) languages launcher := by
  rw [forFile?_eq_find?, List.find?_eq_some_iff_append]
  constructor
  · rintro ⟨served, before, after, parts, missed⟩
    obtain ⟨entries, rest, split, rfl, others⟩ := List.map_eq_append_iff.mp parts
    obtain ⟨⟨language, found⟩, later, rfl, rfl, rfl⟩ := List.map_eq_cons_iff.mp others
    obtain ⟨listed, available⟩ := serves_eq_true_iff.mp served
    refine ⟨entries, language, later, split, available, listed, fun earlier member runs lists => ?_⟩
    have unserved := missed earlier.2 (List.mem_map_of_mem member)
    rw [serves_eq_true_iff.mpr ⟨lists, runs⟩] at unserved
    cases unserved
  · rintro ⟨before, language, after, split, available, listed, first⟩
    refine ⟨serves_eq_true_iff.mpr ⟨listed, available⟩, before.map Prod.snd, after.map Prod.snd,
      by simp [split], fun earlier member => ?_⟩
    obtain ⟨entry, early, rfl⟩ := List.mem_map.mp member
    rw [Bool.not_eq_true', Bool.eq_false_iff, ne_eq, serves_eq_true_iff]
    exact fun ⟨lists, runs⟩ => first entry early runs lists

theorem forFile?_eq_none_iff {languages : Languages} :
    languages.forFile? commands path = none ↔
      ∀ entry ∈ languages.launchers, suffixOf path ∈ entry.2.extensions →
        entry.2.isAvailable commands = false := by
  rw [forFile?_eq_find?, List.find?_eq_none, List.forall_mem_map]
  refine forall₂_congr fun entry _ => ?_
  rw [serves_eq_true_iff, not_and, Bool.not_eq_true]

theorem preset_of_mem_configuredPresets {environment : Environment} {entry : Text × Launcher}
    (member : entry ∈ (configuredPresets environment).launchers) :
    ∃ preset ∈ presets, entry.2.languageId = preset.2.languageId ∧
      entry.2.extensions = preset.2.extensions := by
  obtain ⟨preset, known, rfl⟩ := List.mem_map.mp member
  exact ⟨preset, known, overridden_keeps (commandLine environment preset.1) preset.2⟩

/--
Where every variable can be cut into words there is a table.  The server that it has for a file is
the first one in the order of the presets that can be run and handles the suffix of the file in
small letters, and the language of the file is the one of this server.  There is no server exactly
where none that handles the suffix can be run, so there is none where the language of the file is
the given one because no preset handles its suffix.
-/
theorem chosen_speaks_identified {environment : Environment}
    (words : ∀ entry ∈ presets, ∃ words,
      CommandWords.split (commandLine environment entry.1) = .ok words)
    (commands : List Text) (path default : Text) :
    ∃ table, ofEnvironment environment = .ok table ∧
      (∀ launcher, table.forFile? commands path = some launcher →
        identify path default = launcher.languageId ∧
          IsFirstServing commands (suffixOf path) table launcher) ∧
      (table.forFile? commands path = none ↔
        ∀ entry ∈ table.launchers, suffixOf path ∈ entry.2.extensions →
          entry.2.isAvailable commands = false) ∧
      ((∀ entry ∈ presets, suffixOf path ∉ entry.2.extensions) →
        identify path default = default ∧ table.forFile? commands path = none) := by
  refine ⟨configuredPresets environment, ofEnvironment_of_words words, fun launcher found => ?_,
    forFile?_eq_none_iff, fun unlisted => ⟨identify_of_unlisted default unlisted, ?_⟩⟩
  · have chosen := forFile?_eq_some_iff.mp found
    have ⟨before, language, after, split, _, listed, _⟩ := chosen
    have member : (language, launcher) ∈ (configuredPresets environment).launchers := by simp [split]
    -- the environment changes the command of a preset, neither its extensions nor its name
    obtain ⟨preset, known, identifier, extensions⟩ := preset_of_mem_configuredPresets member
    refine ⟨?_, chosen⟩
    rw [identify_of_listed default known (extensions ▸ listed)]
    exact identifier.symm
  · rw [forFile?_eq_none_iff]
    intro entry member listed
    obtain ⟨preset, known, -, extensions⟩ := preset_of_mem_configuredPresets member
    exact absurd (extensions ▸ listed) (unlisted preset known)

/-- The command of one preset is overridden and cannot be run, so a sketch goes to a later one. -/
theorem chosen_speaks_identified_of_sketch :
    let environment : Environment := [(commandVariable "cpp", "'my clangd' --log=verbose")]
    (∀ entry ∈ presets, ∃ words,
        CommandWords.split (commandLine environment entry.1) = .ok words) ∧
      ∃ table, ofEnvironment environment = .ok table ∧
        table.forFile? ["arduino-language-server", "clangd"] "blink/Blink.INO" =
          some ⟨"cpp", [".ino", ".pde"], "arduino-language-server", []⟩ ∧
        identify "blink/Blink.INO" "plaintext" = "cpp" := by
  intro environment
  have words : ∀ entry ∈ presets, ∃ words,
      CommandWords.split (commandLine environment entry.1) = .ok words := by
    have each : ∀ entry ∈ presets,
        (CommandWords.split (commandLine environment entry.1)).toOption.isSome = true := by
      decide +kernel
    intro entry member
    cases split : CommandWords.split (commandLine environment entry.1) with
    | ok words => exact ⟨words, rfl⟩
    | error error => simpa [split, Except.toOption] using each entry member
  obtain ⟨table, built, agree, -⟩ := chosen_speaks_identified words
    ["arduino-language-server", "clangd"] "blink/Blink.INO" "plaintext"
  have found : table.forFile? ["arduino-language-server", "clangd"] "blink/Blink.INO" =
      some ⟨"cpp", [".ino", ".pde"], "arduino-language-server", []⟩ := by
    rw [eq_of_ofEnvironment built]
    decide +kernel
  exact ⟨words, table, built, found, (agree _ found).1⟩

end Languages

end LanguageSession
