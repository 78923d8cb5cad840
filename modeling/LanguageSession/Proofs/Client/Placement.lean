import Mathlib
import LanguageSession.Proofs.Client.Streams
import LanguageSession.Proofs.Client.Towers

/-!
# Where entries may stand

Many laws of journals say of each entry what may have come before it.  Such a law is upheld if
every move notes only entries in places where they may stand.  The first of them is that messages
are handed to the server of the session.
-/

namespace LanguageSession

namespace Client

open Act

/-! ## Rules -/

/-- Every entry stands where the rule allows it. -/
def Obeys (rule : List Entry → Entry → Prop) (entries : List Entry) : Prop :=
  ∀ before entry after, entries = before ++ entry :: after → rule before entry

section

variable {rule : List Entry → Entry → Prop} {entries added : List Entry}

theorem obeys_nil : Obeys rule [] := by simp [Obeys]

theorem Obeys.append (obeys : Obeys rule entries)
    (allowed : ∀ before entry after, added = before ++ entry :: after →
      rule (entries ++ before) entry) : Obeys rule (entries ++ added) := by
  intro before entry after split
  rcases List.append_eq_append_iff.mp split with ⟨middle, rfl, ends⟩ | ⟨middle, begins, ends⟩
  · exact allowed middle entry after ends
  · rcases List.cons_eq_append_iff.mp ends with ⟨rfl, ends⟩ | ⟨rest, rfl, -⟩
    · have first := allowed [] entry after ends.symm
      rwa [List.append_nil, begins, List.append_nil] at first
    · exact obeys before entry rest begins

theorem Obeys.snoc (obeys : Obeys rule entries) {entry : Entry} (allowed : rule entries entry) :
    Obeys rule (entries ++ [entry]) := by
  refine obeys.append fun before other after split => ?_
  rcases List.singleton_eq_append_iff.mp split with ⟨rfl, last⟩ | ⟨-, ⟨⟩⟩
  obtain ⟨rfl, -⟩ := List.cons_eq_cons.mp last
  rwa [List.append_nil]

theorem Obeys.idle (obeys : Obeys rule entries)
    (free : ∀ entry ∈ added, ∀ before, rule before entry) : Obeys rule (entries ++ added) :=
  obeys.append fun before entry after split => free entry (by simp [split]) _

end

/-! ## Messages go to the server of the session -/

/-- A message is handed to this server. -/
def HandsTo (server : Nat) : Entry → Prop
  | .wrote other _ _ => other = server
  | .writeRefused other _ => other = server
  | _ => False

theorem HandsOver.handsTo {entry : Entry} (hands : HandsOver entry) :
    ∃ server, HandsTo server entry := by
  cases entry with
  | wrote server message data => exact ⟨server, rfl⟩
  | writeRefused server message => exact ⟨server, rfl⟩
  | _ => cases hands

theorem HandsTo.handsOver {server : Nat} {entry : Entry} (hands : HandsTo server entry) :
    HandsOver entry := by
  cases entry <;> simp_all [HandsTo, HandsOver]

def Aimed (before : List Entry) (entry : Entry) : Prop :=
  ∀ server, HandsTo server entry → (standing before).server = some server

theorem aimed_of_silent {entry : Entry} (silent : ¬ HandsOver entry) (before : List Entry) :
    Aimed before entry := fun _ hands => (silent hands.handsOver).elim

def Aims (view : View) : Prop := Obeys Aimed view.entries

theorem aimed_departure (settings : Settings) (server : Nat) (graceful running : Bool)
    (note : Log.Record) :
    ∀ entry ∈ departure settings server graceful running note, ¬ HandsOver entry := by
  intro entry member
  simp only [departure, List.mem_append, List.mem_cons, List.not_mem_nil, or_false] at member
  rcases member with (dismissed | rfl | rfl) | rfl
  · rcases mem_dismissal dismissed with ⟨_, rfl⟩ | rfl | ⟨rfl, -⟩ | rfl
    all_goals exact id
  all_goals exact id

section

variable {view : View}

theorem Aims.looked (aims : Aims view) (sane : Sane view) {server : Nat} {entry : Entry}
    (served : view.session.server = some server)
    (only : ∀ other, HandsTo other entry → other = server) :
    Obeys Aimed (view.entries ++ [.looked server true, entry]) := by
  have looked : Obeys Aimed (view.entries ++ [.looked server true]) :=
    Obeys.snoc aims (aimed_of_silent id _)
  have steady : (standing (view.entries ++ [.looked server true])).server = some server := by
    rw [standing_server_of_unserved (by simp), sane.served, served]
  rw [List.append_cons]
  exact looked.snoc fun other hands => by rw [steady, only other hands]

theorem Aims.wrote (aims : Aims view) (sane : Sane view) {server : Nat}
    (served : view.session.server = some server) (message : Json) (data : Bytes) :
    Obeys Aimed (view.entries ++ [.looked server true] ++ [.wrote server message data]) := by
  rw [← List.append_cons]
  exact aims.looked sane served fun _ hands => Eq.symm hands

theorem Aims.handed (aims : Aims view) (sane : Sane view) {message : Json} {added : List Entry}
    (handed : Handed view.session.server message added) : Obeys Aimed (view.entries ++ added) := by
  cases handed with
  | unserved nobody => rwa [List.append_nil]
  | ended number served => exact Obeys.snoc aims (aimed_of_silent id _)
  | taken number data note served =>
      rw [List.append_cons, List.append_cons]
      exact (aims.wrote sane served message data).snoc (aimed_of_silent id _)

instance : Upheld Aims where
  move {view view'} sane aims move := by
    have silently {added : List Entry} (silent : ∀ entry ∈ added, ¬ HandsOver entry) :
        Obeys Aimed (view.entries ++ added) :=
      Obeys.idle aims fun entry member => aimed_of_silent (silent entry member)
    have logging (notes : List Log.Record) : ∀ entry ∈ notes.map Entry.logged, ¬ HandsOver entry :=
      fun entry noted => (minor_logged entry noted).not_handsOver
    cases move with
    | aside session added same idle minor =>
        exact silently fun entry member => (minor entry member).not_handsOver
    | told message added other handed => exact aims.handed sane handed
    | refused server message served due => exact aims.looked sane served fun _ hands => hands.symm
    | answered server message data answer served due =>
        change Obeys Aimed (view.entries ++ _)
        rw [List.append_cons, List.append_cons]
        exact (aims.wrote sane served message data).snoc (aimed_of_silent id _)
    | synced notice added ready handed => exact aims.handed sane handed
    | strayed notice earlier server added lawful sane' ready served since interrupted stopping
        inside lost => exact aims
    | opened notes unready going lost =>
        exact silently (List.forall_mem_append.mpr ⟨logging notes, by simp [HandsOver]⟩)
    | begun server served going => exact silently (by simp [HandsOver])
    | shutting notes ready stopping => exact silently (logging notes)
    | left server earlier later graceful running note stopping since inside kept hasty =>
        exact silently (aimed_departure _ server graceful running note)
    | stopped notes stopping unready finished => exact silently (logging notes)
    | renewed root ready cause => exact silently (by simp [HandsOver])
    | adopted notes fresh free =>
        exact silently (List.forall_mem_append.mpr ⟨logging notes, by simp [HandsOver]⟩)
    | restarted root notes unready free =>
        refine silently (List.forall_mem_append.mpr ⟨?_, by simp [HandsOver]⟩)
        exact List.forall_mem_cons.mpr ⟨id, logging notes⟩

end

/-- The session takes a server. -/
def takes : Entry → Bool
  | .serving server => server.isSome
  | _ => false

theorem untaken_of_takes {entries : List Entry} (untaken : entries.any takes = false) (server : Nat) :
    .serving (some server) ∉ entries := by
  intro member
  have taken := List.any_eq_false.mp untaken _ member
  exact taken rfl

theorem standing_unserved {entries later : List Entry} (nobody : (standing entries).server = none)
    (untaken : ∀ server, .serving (some server) ∉ later) :
    (standing (entries ++ later)).server = none := by
  induction later using List.reverseRecOn with
  | nil => rwa [List.append_nil]
  | append_singleton later entry ih =>
      have earlier := ih fun server member => untaken server (List.mem_append_left _ member)
      rw [← List.append_assoc, standing_snoc]
      cases entry with
      | serving server =>
          cases server with
          | none => rfl
          | some server => exact (untaken server (by simp)).elim
      | _ => exact earlier

/-- Once the session has been left nothing is handed over, unless it takes a server. -/
theorem Obeys.silent_after {entries before after : List Entry} (obeys : Obeys Aimed entries)
    (split : entries = before ++ .serving none :: after)
    (untaken : ∀ server, .serving (some server) ∉ after) : ∀ entry ∈ after, ¬ HandsOver entry := by
  intro entry member hands
  obtain ⟨server, hands⟩ := hands.handsTo
  obtain ⟨between, rest, rfl⟩ := List.append_of_mem member
  have parted : entries = ((before ++ [.serving none]) ++ between) ++ entry :: rest := by
    simp [split]
  have current := obeys _ entry rest parted server hands
  have left : (standing (before ++ [.serving none])).server = none := by
    rw [standing_snoc]
    rfl
  rw [standing_unserved left fun other taken => untaken other (List.mem_append_left _ taken)] at current
  cases current

/-! ## Turns of runs -/

theorem Reached.paused {law : View → Prop} [Upheld law]
    (fresh : ∀ settings, law ⟨{}, [], settings, 0⟩) {world : World} (reached : Reached world) :
    Paused law world := by
  obtain ⟨settings, factory, depth, script, rfl⟩ := reached
  refine leftBy_turns (fun step _ middle paused => ?_) (paused_fresh settings factory (fresh settings))
  exact (turn_performed paused step depth).paused paused.going

theorem entries_play (settings : Settings) (factory : Conduct) (script : List Step) :
    (leftBy { settings := settings, factory := factory }
        (play { settings := settings, factory := factory } script)).journal.entries =
      (play { settings := settings, factory := factory } script).flatMap Turn.entries := by
  have keeps (step : Step) := within_keeps
    (performWith_settles (nestedCalls_orderly (depthFor script)) step)
  exact (turns_sound keeps (sound_fresh settings factory) script).2

theorem turn_entries {perform : Step → Act World Json} {world : World} {step : Step}
    {added : List Entry} (grown : (turn perform world step).after.journal.entries =
      world.journal.entries ++ added) : (turn perform world step).entries = added := by
  change (turn perform world step).after.journal.entries.drop world.journal.entries.length = added
  rw [grown, List.drop_left]

theorem turn_noted {started : Prop} {perform : Step → Act World Json}
    {world : World} {step : Step} {added : List Entry}
    (passage : Passage started world.view added (turn perform world step).after.view) :
    (turn perform world step).entries = added := turn_entries passage.entries

end Client

end LanguageSession
