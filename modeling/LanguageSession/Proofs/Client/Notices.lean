import Mathlib
import LanguageSession.Proofs.Client.Towers

/-!
# Notices to a session that is not ready

A notice about a document is dropped unless the session counts as ready.  It does so in its ready
phase and while it is shutting down, where a listener may still have a notice written.  Only a
session that was announced as ready when it had lost its server may count as ready in another
phase, that of a later session.
-/

namespace LanguageSession

namespace Client

open Act

/-! ## When a session counts as ready -/

def ReadyInPhase (view : View) : Prop :=
  Hollow view.entries ∨
    (view.session.ready = true → view.session.phase = .ready ∨ view.session.phase = .shuttingDown)

theorem ReadyInPhase.later {view view' : View} {added : List Entry} (lawful : ReadyInPhase view)
    (entries : view'.entries = view.entries ++ added)
    (inPhase : (view.session.ready = true →
        view.session.phase = .ready ∨ view.session.phase = .shuttingDown) →
      view'.session.ready = true →
        view'.session.phase = .ready ∨ view'.session.phase = .shuttingDown) :
    ReadyInPhase view' := by
  rcases lawful with hollow | kept
  · exact .inl (entries ▸ hollow.append added)
  · exact .inr (inPhase kept)

instance : Upheld ReadyInPhase where
  move {view view'} _ lawful move := by
    cases move with
    | aside session added same idle minor =>
        obtain ⟨phase, ready⟩ : session.phase = view.session.phase ∧
          session.ready = view.session.ready := by simp_all [Session.essence]
        exact lawful.later rfl fun kept => by rwa [phase, ready]
    | told message added other handed => exact lawful.later rfl id
    | refused server message served due => exact lawful.later rfl id
    | answered server message data answer served due => exact lawful.later rfl id
    | synced notice added ready handed => exact lawful.later rfl id
    | strayed notice earlier server added lawful' sane ready served since interrupted stopping
        inside lost =>
        exact lawful.later (List.append_nil _).symm id
    | opened notes unready going lost => exact .inr fun _ => .inl rfl
    | begun server served going => exact lawful.later rfl id
    | shutting notes ready stopping => exact .inr fun _ => .inr rfl
    | left server earlier later graceful running note stopping since inside kept hasty =>
        exact .inr (by simp)
    | stopped notes stopping unready finished =>
        exact .inr fun ready => by rw [unready] at ready; cases ready
    | renewed root ready cause => exact .inr (by simp)
    | adopted notes fresh free =>
        rcases fresh with hollow | ⟨unready, -⟩
        · exact .inl (hollow.append _)
        · exact .inr fun ready => by rw [unready] at ready; cases ready
    | restarted root notes unready free => exact .inr (by simp)

/-! ## Runs without idle notices -/

def Step.isNotice : Step → Bool
  | .didOpen _ _ _ => true
  | .didChange _ _ => true
  | .didClose _ => true
  | _ => false

/-- Does the entry announce a session as ready? -/
def announces : Entry → Bool
  | .emitted (.ready true) => true
  | _ => false

theorem announces_iff {entry : Entry} : announces entry = true ↔ entry = .emitted (.ready true) := by
  constructor
  · intro announced
    unfold announces at announced
    split at announced
    · rfl
    · cases announced
  · rintro rfl
    rfl

theorem hollow_iff {entries : List Entry} : Hollow entries ↔
    ∃ number < entries.length, (entries[number]?).any announces ∧
      (standing (entries.take number)).server = none := by
  constructor
  · rintro ⟨before, after, rfl, unserved⟩
    refine ⟨before.length, by simp, ?_, by simpa using unserved⟩
    simp [announces]
  · rintro ⟨number, within, announced, unserved⟩
    rw [List.getElem?_eq_getElem within, Option.any_some, announces_iff] at announced
    refine ⟨entries.take number, entries.drop (number + 1), ?_, unserved⟩
    rw [← announced, List.getElem_cons_drop, List.take_append_drop]

instance (entries : List Entry) : Decidable (Hollow entries) := decidable_of_iff _ hollow_iff.symm

/-- The session is in no phase in which it counts as ready, and was not announced in vain. -/
def Idling (world : World) : Prop :=
  world.session.phase ≠ .ready ∧ world.session.phase ≠ .shuttingDown ∧
    ¬ Hollow world.journal.entries

instance (world : World) : Decidable (Idling world) := inferInstanceAs (Decidable (_ ∧ _ ∧ _))

/-- Steps are performed without the notices to a session that idles. -/
def withoutIdleNotices (perform : Step → Act World Json) (step : Step) : Act World Json := do
  let world ← getThe World
  if step.isNotice ∧ Idling world then return .null else perform step

theorem giveNotice_unready {world : World} (nested : Nested) (notice : Notice)
    (unready : world.session.ready = false) :
    result (giveNotice nested notice) world = (.ok (), world) := by
  simp only [giveNotice, result_bind, result_getSession, unready]
  rfl

theorem withoutIdleNotices_harmless : Harmless ReadyInPhase withoutIdleNotices := by
  intro nested step world governed
  simp only [withoutIdleNotices, result_bind, result_getWorld]
  split
  · next idle =>
    obtain ⟨notice, unready_phase, leaving, full⟩ := idle
    have unready : world.session.ready = false := by
      by_contra ready
      rcases governed.lawful with hollow | kept
      · exact full hollow
      · rcases kept (by simpa using ready) with ready_phase | shutting
        · exact unready_phase ready_phase
        · exact leaving shutting
    have nothing (notice : Notice) :
        result (do giveNotice nested notice; return .null : Act World Json) world =
          (.ok .null, world) := by
      rw [result_bind, giveNotice_unready nested notice unready]
      rfl
    cases step with
    | didOpen uri language text => exact (nothing (.opened uri language text)).symm
    | didChange uri text => exact (nothing (.changed uri text)).symm
    | didClose uri => exact (nothing (.closed uri)).symm
    | _ => cases notice
  · rfl

/-- In every run, notices to a session that idles can be left out and nothing changes. -/
theorem idleNotices_do_nothing (settings : Settings) (factory : Conduct) (script : List Step) :
    turns (withoutIdleNotices (performWith (tower withoutIdleNotices (depthFor script))))
      { settings := settings, factory := factory } script =
    play { settings := settings, factory := factory } script :=
  turns_tower withoutIdleNotices_harmless
    (paused_fresh settings factory (.inr (by simp))) script

/-! ## A notice during a shutdown -/

/-- Notices are not written to a server whose session is ending. -/
def NoticesInTime (journal : List Entry) : Prop :=
  ∀ before after server message data, journal = before ++ .wrote server message data :: after →
    documentMethod? message ≠ none → underway before = false

/-- A listener hears that the request to shut down was not written, and opens a document. -/
def lateNotice : List Step :=
  [.subscribe .log ⟨"log", "L",
      [.set none none fun conduct => { conduct with refusesWrite := fun _ => none },
        .didOpen "a" "cpp" (.string "t")], none, false⟩,
    .start "srv" [] none,
    .send none (.object [("id", .nat 1), ("result", .object [])]),
    .set none none fun conduct => { conduct with refusesWrite := fun _ => some "broken" },
    .stop]

def writesNotice : List Entry → Bool
  | .wrote _ message _ :: _ => (documentMethod? message).isSome
  | _ => false

theorem writesNotice_eq_true {journal : List Entry} (writes : writesNotice journal = true) :
    ∃ server message data after, journal = .wrote server message data :: after ∧
      documentMethod? message ≠ none := by
  unfold writesNotice at writes
  split at writes
  · exact ⟨_, _, _, _, rfl, Option.isSome_iff_ne_none.mp writes⟩
  · cases writes

theorem lateNotice_written : ¬ NoticesInTime ((play {} lateNotice).flatMap Turn.entries) := by
  intro inTime
  generalize same : (play {} lateNotice).flatMap Turn.entries = journal at inTime
  have written : writesNotice (journal.drop 28) = true := by
    rw [← same]
    decide +kernel
  have ending : underway (journal.take 28) = true := by
    rw [← same]
    decide +kernel
  have split := List.take_append_drop 28 journal
  obtain ⟨server, message, data, after, rest, notice⟩ := writesNotice_eq_true written
  rw [rest] at split
  rw [inTime _ after server message data split.symm notice] at ending
  cases ending

end Client

end LanguageSession
