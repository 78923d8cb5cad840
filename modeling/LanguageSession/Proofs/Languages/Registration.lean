import Mathlib
import LanguageSession.Languages
import LanguageSession.Proofs.Association

/-!
# Registering a server

A registered server takes the place of its language in the table, or the last place.  Names of
languages and suffixes of files are looked up in small letters but registered as they are given,
so a language or a suffix with a capital letter is kept and never found.
-/

namespace LanguageSession

namespace Languages

variable {languages : Languages} {language : Text} {launcher : Launcher} {commands : List Text}

def serves (commands : List Text) (suffix : Text) (launcher : Launcher) : Bool :=
  launcher.extensions.contains suffix && launcher.isAvailable commands

theorem serves_eq_true_iff {suffix : Text} : serves commands suffix launcher = true ↔
    suffix ∈ launcher.extensions ∧ launcher.isAvailable commands = true := by
  simp [serves]

def earlier (languages : Languages) (language : Text) : List (Text × Launcher) :=
  languages.launchers.takeWhile fun entry => entry.1 ≠ language

def later (languages : Languages) (language : Text) : List (Text × Launcher) :=
  (languages.launchers.dropWhile fun entry => entry.1 ≠ language).tail

theorem launchers_register : (languages.register language launcher).launchers =
    languages.earlier language ++ (language, launcher) :: languages.later language :=
  Association.put_eq_append language launcher languages.launchers

theorem forFile?_eq_find? (path : Text) : languages.forFile? commands path =
    (languages.launchers.map Prod.snd).find? (serves commands (suffixOf path)) := rfl

theorem forLanguage?_register (name : Text) :
    (languages.register language launcher).forLanguage? commands name =
      if name.lower = language then some launcher |>.filter fun found => found.isAvailable commands
      else languages.forLanguage? commands name := by
  have found := Association.lookup_put language name.lower launcher languages.launchers
  simp only [forLanguage?, register, found]
  split <;> rfl

theorem forFile?_register_of_served {path : Text}
    (first : ∀ entry ∈ languages.earlier language,
      serves commands (suffixOf path) entry.2 = false)
    (served : serves commands (suffixOf path) launcher = true) :
    (languages.register language launcher).forFile? commands path = some launcher := by
  have missed : ((languages.earlier language).map Prod.snd).find?
      (serves commands (suffixOf path)) = none := by
    rw [List.find?_eq_none]
    intro other member
    obtain ⟨entry, before, rfl⟩ := List.mem_map.mp member
    simp [first entry before]
  rw [forFile?_eq_find?, launchers_register, List.map_append, List.find?_append, missed,
    Option.none_or, List.map_cons, List.find?_cons_of_pos served]

theorem forFile?_register_of_unserved {path : Text}
    (unserved : serves commands (suffixOf path) launcher = false) :
    (languages.register language launcher).forFile? commands path =
      forFile? ⟨languages.earlier language ++ languages.later language⟩ commands path := by
  rw [forFile?_eq_find?, forFile?_eq_find?, launchers_register, List.map_append, List.map_append,
    List.find?_append, List.find?_append, List.map_cons,
    List.find?_cons_of_neg (by simp [unserved])]

/--
A registered server that can be run is found by every name that is its language in small letters,
and for every file whose suffix in small letters it handles unless an earlier one serves it.  For
all other names and files the table answers as if it had not been registered, and what it holds
for other languages stays.
-/
theorem registered_found (languages : Languages) (language : Text)
    (available : launcher.isAvailable commands = true) :
    let registered := languages.register language launcher
    (∀ name : Text, name.lower = language →
        registered.forLanguage? commands name = some launcher) ∧
      (∀ name : Text, name.lower ≠ language →
        registered.forLanguage? commands name = languages.forLanguage? commands name) ∧
      (∀ path, suffixOf path ∈ launcher.extensions →
        (∀ entry ∈ languages.earlier language, entry.2.isAvailable commands = true →
          suffixOf path ∉ entry.2.extensions) →
        registered.forFile? commands path = some launcher) ∧
      (∀ path, suffixOf path ∉ launcher.extensions →
        registered.forFile? commands path =
          forFile? ⟨languages.earlier language ++ languages.later language⟩ commands path) ∧
      registered.launchers.filter (fun entry => entry.1 ≠ language) =
        languages.launchers.filter (fun entry => entry.1 ≠ language) := by
  refine ⟨fun name named => ?_, fun name other => ?_, fun path listed first => ?_,
    fun path unlisted => ?_, Association.filter_put language launcher languages.launchers⟩
  · rw [forLanguage?_register, if_pos named]
    simp [available]
  · rw [forLanguage?_register, if_neg other]
  · refine forFile?_register_of_served (fun entry member => ?_)
      (serves_eq_true_iff.mpr ⟨listed, available⟩)
    rw [Bool.eq_false_iff, ne_eq, serves_eq_true_iff]
    -- an earlier entry that serves the path would come first
    rintro ⟨listed, available⟩
    exact first entry member available listed
  · refine forFile?_register_of_unserved ?_
    rw [Bool.eq_false_iff, ne_eq, serves_eq_true_iff]
    exact fun served => unlisted served.1

theorem registered_found_of_zig :
    let zig : Launcher := ⟨"zig", [".zig"], "zls", []⟩
    let registered := register ⟨presets⟩ "zig" zig
    zig.isAvailable ["zls", "clangd"] = true ∧
      registered.forLanguage? ["zls", "clangd"] "ZIG" = some zig ∧
      registered.forFile? ["zls", "clangd"] "src/main.Zig" = some zig := by
  have available : Launcher.isAvailable ⟨"zig", [".zig"], "zls", []⟩ ["zls", "clangd"] = true := by
    decide +kernel
  obtain ⟨named, -, filed, -⟩ := registered_found ⟨presets⟩ "zig" available
  exact ⟨available, named "ZIG" (by decide +kernel),
    filed "src/main.Zig" (by decide +kernel) (by decide +kernel)⟩

/-- A server for a language that is written with a capital letter, and a suffix as well. -/
def capitalised : Launcher := ⟨"zig", [".ZIG"], "zls", []⟩

theorem capitalised_unfound :
    let registered := register ⟨presets⟩ "Zig" capitalised
    capitalised.isAvailable ["zls"] = true ∧ registered.forLanguage? ["zls"] "Zig" = none ∧
      FilePath.suffix "main.ZIG" ∈ capitalised.extensions ∧
      (∀ entry ∈ earlier ⟨presets⟩ "Zig", FilePath.suffix "main.ZIG" ∉ entry.2.extensions) ∧
      registered.forFile? ["zls"] "main.ZIG" = none := by
  decide +kernel

end Languages

end LanguageSession
