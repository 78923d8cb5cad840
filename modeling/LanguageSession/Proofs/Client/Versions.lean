import Mathlib
import LanguageSession.Proofs.Client.Placement
import LanguageSession.Proofs.Documents

/-!
# Versions of documents on the wire

What a server was told of the versions of documents can be read off the journal.  While the server
runs and takes every message, the session keeps just these versions, and every notice carries the
one that is next.  A version can get into a session that it does not belong to in three ways only:
the session is announced as ready without a server, a notice is refused while the session is
ending, or a notice is answered before its write has returned.
-/

namespace LanguageSession

namespace Client

open Act

/-! ## What a server was told -/

def documentMember (message : Json) (name : Text) : Json :=
  ((message.member "params").member "textDocument").member name

def carriedVersion? (message : Json) : Option Nat :=
  match documentMember message "version" with
  | .integer version => some version.toNat
  | _ => none

/-- What is known of a server from what was noted since it was taken. -/
structure Wire where
  /-- It ran whenever it was looked at, and refused no message. -/
  reliable : Bool := true
  /-- The last version that it was told of each document, if the document was not closed since. -/
  versions : Text → Option Nat := fun _ => none

namespace Wire

def hear (wire : Wire) (message : Json) : Wire :=
  match documentMethod? message, documentMember message "uri" with
  | some _, .string uri =>
    { wire with versions := Function.update wire.versions uri (carriedVersion? message) }
  | _, _ => wire

theorem hear_reliable (wire : Wire) (message : Json) :
    (wire.hear message).reliable = wire.reliable := by
  unfold hear
  split <;> rfl

def advance (wire : Wire) : Entry → Wire
  | .serving (some _) => {}
  | .looked _ false => { wire with reliable := false }
  | .writeRefused _ _ => { wire with reliable := false }
  | .wrote _ message _ => wire.hear message
  | _ => wire

end Wire

def wire (journal : List Entry) : Wire := journal.foldl Wire.advance {}

theorem wire_append (entries added : List Entry) :
    wire (entries ++ added) = added.foldl Wire.advance (wire entries) :=
  List.foldl_append

/-- A notice that opens a document has version one, and one that changes it the next version. -/
def Sequenced (versions : Text → Option Nat) (message : Json) : Prop :=
  (documentMethod? message = some ("textDocument/didOpen" : Text) →
    documentMember message "version" = .nat 1) ∧
  (documentMethod? message = some ("textDocument/didChange" : Text) →
    ∀ uri, documentMember message "uri" = .string uri →
      documentMember message "version" = .nat ((versions uri).getD 1 + 1))

/-- The session keeps the versions that the server was told. -/
def Agrees (wire : Wire) (documents : Documents) : Prop :=
  ∀ uri, documents.version? uri = wire.versions uri

section

variable {known : Wire} {documents : Documents} {message : Json}

theorem sequenced_of_other (other : documentMethod? message = none)
    (versions : Text → Option Nat) : Sequenced versions message := by
  constructor
  · simp [other]
  · simp [other]

theorem Agrees.sequenced (agrees : Agrees known documents) (notice : Notice) :
    Sequenced known.versions (notice.message documents) := by
  constructor
  · intro opens
    cases notice with
    | opened uri language text => rfl
    | changed uri text =>
        have same : ("textDocument/didChange" : Text) = "textDocument/didOpen" := Option.some.inj opens
        exact absurd same (by decide)
    | closed uri =>
        have same : ("textDocument/didClose" : Text) = "textDocument/didOpen" := Option.some.inj opens
        exact absurd same (by decide)
  · intro changes uri about
    cases notice with
    | opened uri' language text =>
        have same : ("textDocument/didOpen" : Text) = "textDocument/didChange" := Option.some.inj changes
        exact absurd same (by decide)
    | changed uri' text =>
        obtain rfl : uri' = uri := Json.string.inj about
        rw [← agrees uri']
        rfl
    | closed uri' =>
        have same : ("textDocument/didClose" : Text) = "textDocument/didChange" :=
          Option.some.inj changes
        exact absurd same (by decide)

theorem Agrees.heard (agrees : Agrees known documents) (notice : Notice) :
    Agrees (known.hear (notice.message documents)) (notice.apply documents) := by
  intro other
  cases notice with
  | opened uri language text =>
      rw [Notice.apply, Documents.version?_openDocument, agrees other]
      exact (Function.update_apply known.versions uri (some 1) other).symm
  | changed uri text =>
      rw [Notice.apply, Documents.version?_change, agrees other]
      exact (Function.update_apply known.versions uri (some (documents.nextVersion uri)) other).symm
  | closed uri =>
      rw [Notice.apply, Documents.version?_close, agrees other]
      exact (Function.update_apply known.versions uri none other).symm

end

/-! ## Entries of which a server hears nothing -/

/-- The server hears nothing of a document, and stays. -/
def Unheard : Entry → Prop
  | .serving (some _) => False
  | .wrote _ message _ => documentMethod? message = none
  | _ => True

theorem Minor.unheard {entry : Entry} (minor : Minor entry) : Unheard entry := by
  cases entry with
  | serving server => cases minor
  | wrote server message data => cases minor
  | _ => trivial

theorem unheard_departure (settings : Settings) (server : Nat) (graceful running : Bool)
    (note : Log.Record) :
    ∀ entry ∈ departure settings server graceful running note, Unheard entry := by
  intro entry member
  simp only [departure, List.mem_append, List.mem_cons, List.not_mem_nil, or_false] at member
  rcases member with (dismissed | rfl | rfl) | rfl
  · rcases mem_dismissal dismissed with ⟨_, rfl⟩ | rfl | ⟨rfl, -⟩ | rfl
    all_goals trivial
  all_goals trivial

structure Wire.Fades (wire wire' : Wire) : Prop where
  versions : wire'.versions = wire.versions
  reliable : wire'.reliable = true → wire.reliable = true

theorem Wire.fades_advance (wire : Wire) {entry : Entry} (unheard : Unheard entry) :
    wire.Fades (wire.advance entry) := by
  cases entry with
  | serving server =>
      cases server with
      | none => exact ⟨rfl, id⟩
      | some server => cases unheard
  | looked server running =>
      cases running with
      | true => exact ⟨rfl, id⟩
      | false => exact ⟨rfl, fun reliable => absurd reliable Bool.false_ne_true⟩
  | writeRefused server message => exact ⟨rfl, fun reliable => absurd reliable Bool.false_ne_true⟩
  | wrote server message data =>
      have deaf : wire.advance (.wrote server message data) = wire := by
        rw [Wire.advance, Wire.hear, show documentMethod? message = none from unheard]
      rw [deaf]
      exact ⟨rfl, id⟩
  | _ => exact ⟨rfl, id⟩

theorem wire_fades (entries : List Entry) {added : List Entry}
    (unheard : ∀ entry ∈ added, Unheard entry) :
    (wire entries).Fades (wire (entries ++ added)) := by
  induction added using List.reverseRecOn with
  | nil =>
      rw [List.append_nil]
      exact ⟨rfl, id⟩
  | append_singleton added entry ih =>
      have earlier := ih fun other member => unheard other (List.mem_append_left _ member)
      have last := (wire (entries ++ added)).fades_advance (unheard entry (by simp))
      rw [← List.append_assoc, wire_append]
      exact ⟨last.versions.trans earlier.versions, fun holds => earlier.reliable (last.reliable holds)⟩

/-- A server that has failed is not reliable until another is taken. -/
theorem reliable_of_untaken {entries added : List Entry}
    (untaken : ∀ server, .serving (some server) ∉ added)
    (reliable : (wire (entries ++ added)).reliable = true) : (wire entries).reliable = true := by
  induction added using List.reverseRecOn with
  | nil => rwa [List.append_nil] at reliable
  | append_singleton added entry ih =>
      refine ih (fun server member => untaken server (List.mem_append_left _ member)) ?_
      rw [← List.append_assoc, wire_append] at reliable
      by_contra failed
      -- only a new server makes the wire reliable again
      have kept : ((wire (entries ++ added)).advance entry).reliable = false := by
        cases entry with
        | serving server =>
            cases server with
            | none => simpa [Wire.advance] using failed
            | some server => exact (untaken server (by simp)).elim
        | looked server running =>
            cases running with
            | true => simpa [Wire.advance] using failed
            | false => rfl
        | writeRefused server message => rfl
        | wrote server message data =>
            rw [Wire.advance, Wire.hear_reliable]
            simpa using failed
        | _ => simpa [Wire.advance] using failed
      rw [List.foldl_cons, List.foldl_nil, kept] at reliable
      cases reliable

/-! ## Versions that go astray -/

def arrives : Entry → Bool
  | .arrived _ _ => true
  | _ => false

def leaves : Entry → Bool
  | .serving server => server.isNone
  | _ => false

/-- A version may get into a session that it does not belong to. -/
def strays (before : List Entry) (entry : Entry) (after : List Entry) : Bool :=
  match entry with
  | .emitted (.ready true) => (standing before).server.isNone
  | .writeRefused _ message =>
    (documentMethod? message).isSome && underway before &&
      (after.takeWhile fun entry => !leaves entry).any takes
  | .wrote _ message _ => (documentMethod? message).isSome && after.head?.any arrives
  | _ => false

def Astray (entries : List Entry) : Prop :=
  ∃ before entry after, entries = before ++ entry :: after ∧ strays before entry after = true

section

variable {entries : List Entry}

theorem takeWhile_prefix_append (p : Entry → Bool) (entries later : List Entry) :
    entries.takeWhile p <+: (entries ++ later).takeWhile p := by
  rw [List.takeWhile_append]
  split
  · next whole =>
    rw [List.IsPrefix.eq_of_length (List.takeWhile_prefix p) whole]
    exact List.prefix_append _ _
  · exact List.prefix_refl _

theorem strays_append {before after : List Entry} {entry : Entry}
    (stray : strays before entry after = true) (later : List Entry) :
    strays before entry (after ++ later) = true := by
  unfold strays at stray ⊢
  split at stray
  · exact stray
  · obtain ⟨late, taken⟩ := Bool.and_eq_true_iff.mp stray
    refine Bool.and_eq_true_iff.mpr ⟨late, ?_⟩
    obtain ⟨entry, member, takes⟩ := List.any_eq_true.mp taken
    exact List.any_eq_true.mpr
      ⟨entry, (takeWhile_prefix_append _ after later).subset member, takes⟩
  · obtain ⟨about, answered⟩ := Bool.and_eq_true_iff.mp stray
    refine Bool.and_eq_true_iff.mpr ⟨about, ?_⟩
    cases after with
    | nil => cases answered
    | cons first rest => exact answered
  · exact stray

theorem Astray.append (astray : Astray entries) (later : List Entry) : Astray (entries ++ later) := by
  obtain ⟨before, entry, after, rfl, stray⟩ := astray
  exact ⟨before, entry, after ++ later, by simp, strays_append stray later⟩

theorem Hollow.astray (hollow : Hollow entries) : Astray entries := by
  obtain ⟨before, after, split, unserved⟩ := hollow
  refine ⟨before, _, after, split, ?_⟩
  rw [strays, unserved]
  rfl

theorem astray_of_answered {server : Nat} {message : Json} {data answer : Bytes}
    (about : documentMethod? message ≠ none) (rest : List Entry) :
    Astray (entries ++ .looked server true :: .wrote server message data ::
      .arrived server answer :: rest) := by
  refine ⟨entries ++ [.looked server true], .wrote server message data,
    .arrived server answer :: rest, by simp, ?_⟩
  rw [strays, Option.isSome_iff_ne_none.mpr about]
  rfl

/-- A notice that was refused leads astray if a server is taken before the session is left. -/
theorem astray_of_refused {server number : Nat} {message : Json} {rest : List Entry}
    (about : documentMethod? message ≠ none) (ending : underway entries = true)
    (inside : ∀ entry ∈ rest, ¬ Borders entry) (taken : .serving (some number) ∈ rest) :
    Astray (entries ++ .looked server true :: .writeRefused server message :: rest) := by
  refine ⟨entries ++ [.looked server true], .writeRefused server message, rest, by simp, ?_⟩
  have within : (rest.takeWhile fun entry => !leaves entry) = rest := by
    refine List.takeWhile_eq_self_iff.mpr fun entry member => ?_
    have inner := inside entry member
    cases entry with
    | serving server =>
        cases server with
        | none => exact (inner rfl).elim
        | some server => rfl
    | _ => rfl
  rw [strays, Option.isSome_iff_ne_none.mpr about, within,
    underway_append (by simp [Borders, border?]), ending]
  exact List.any_eq_true.mpr ⟨_, taken, rfl⟩

theorem astray_iff : Astray entries ↔ ∃ number < entries.length,
    (entries[number]?).any fun entry =>
      strays (entries.take number) entry (entries.drop (number + 1)) := by
  constructor
  · rintro ⟨before, entry, after, rfl, stray⟩
    refine ⟨before.length, by simp, ?_⟩
    simpa using stray
  · rintro ⟨number, within, stray⟩
    rw [List.getElem?_eq_getElem within, Option.any_some] at stray
    refine ⟨_, _, _, ?_, stray⟩
    rw [List.getElem_cons_drop, List.take_append_drop]

instance (entries : List Entry) : Decidable (Astray entries) := decidable_of_iff _ astray_iff.symm

end

/-! ## The law -/

/-- A notice to a server that is reliable so far is in sequence, unless a version went astray. -/
def InSequence (before : List Entry) : Entry → Prop
  | .wrote _ message _ => ¬ Astray before → (wire before).reliable = true →
      Sequenced (wire before).versions message
  | _ => True

theorem Unheard.inSequence {entry : Entry} (unheard : Unheard entry) (before : List Entry) :
    InSequence before entry := by
  cases entry with
  | wrote server message data => exact fun _ _ => sequenced_of_other unheard _
  | _ => trivial

/-- Notices are in sequence, and a session that goes on keeps the versions that were told. -/
structure Tracked (view : View) : Prop where
  sequenced : Obeys InSequence view.entries
  agrees : ¬ Astray view.entries → (wire view.entries).reliable = true →
    view.session.server ≠ none → underway view.entries = false ∨ view.session.ready = true →
    Agrees (wire view.entries) view.session.documents

section

variable {view view' : View} {added : List Entry}

/-- Nothing is heard, and the versions are kept. -/
theorem Tracked.onward (tracked : Tracked view) (unheard : ∀ entry ∈ added, Unheard entry)
    (entries : view'.entries = view.entries ++ added)
    (server : view'.session.server = view.session.server)
    (documents : view'.session.documents = view.session.documents)
    (awake : underway view'.entries = false ∨ view'.session.ready = true →
      underway view.entries = false ∨ view.session.ready = true) : Tracked view' := by
  constructor
  · rw [entries]
    exact tracked.sequenced.append fun before entry after split =>
      (unheard entry (by simp [split])).inSequence _
  · intro straight reliable served wakes
    have fades := wire_fades view.entries unheard
    rw [entries] at straight reliable ⊢
    have agrees := tracked.agrees (fun astray => straight (astray.append added))
      (fades.reliable reliable) (server ▸ served) (awake wakes)
    intro uri
    rw [fades.versions, documents]
    exact agrees uri

theorem Tracked.lost (tracked : Tracked view) (unheard : ∀ entry ∈ added, Unheard entry)
    (entries : view'.entries = view.entries ++ added) (lost : ¬ Astray view'.entries →
      (wire view'.entries).reliable = true → view'.session.server ≠ none →
      underway view'.entries = false ∨ view'.session.ready = true → False) : Tracked view' := by
  constructor
  · rw [entries]
    exact tracked.sequenced.append fun before entry after split =>
      (unheard entry (by simp [split])).inSequence _
  · exact fun straight reliable served wakes => (lost straight reliable served wakes).elim

/-- A notice is written, with the version that is next. -/
theorem Tracked.writes (tracked : Tracked view) {server : Nat} {notice : Notice} (data : Bytes)
    (served : view.session.server = some server) (ready : view.session.ready = true) :
    Obeys InSequence (view.entries ++ [.looked server true] ++
      [.wrote server (notice.message view.session.documents) data]) := by
  have looked : Obeys InSequence (view.entries ++ [.looked server true]) :=
    tracked.sequenced.snoc trivial
  refine looked.snoc fun straight reliable => ?_
  have same : wire (view.entries ++ [.looked server true]) = wire view.entries := by
    rw [wire_append]
    rfl
  rw [same] at reliable ⊢
  have agrees := tracked.agrees (fun astray => straight (astray.append _)) reliable
    (served ▸ Option.some_ne_none server) (.inr ready)
  exact agrees.sequenced notice

theorem Sane.not_underway (sane : Sane view) (going : view.session.stopping = false) :
    Client.underway view.entries = false := by
  by_contra ending
  have stopping := sane.underway (by simpa using ending)
  rw [going] at stopping
  cases stopping

/-- The session takes a server, and has no versions. -/
theorem Tracked.taking (tracked : Tracked view) (server : Nat)
    (unheard : ∀ entry ∈ added, Unheard entry)
    (entries : view'.entries = view.entries ++ added ++ [.serving (some server)])
    (fresh : ¬ Astray view'.entries → view'.session.documents = {}) : Tracked view' := by
  constructor
  · rw [entries]
    refine Obeys.snoc ?_ trivial
    exact tracked.sequenced.append fun before entry after split =>
      (unheard entry (by simp [split])).inSequence _
  · intro straight _ _ _ uri
    have new : wire view'.entries = {} := by
      rw [entries, wire_append]
      rfl
    rw [fresh straight, new]
    rfl

instance : Upheld Tracked where
  move {view view'} sane tracked move := by
    have logging (notes : List Log.Record) : ∀ entry ∈ notes.map Entry.logged, Unheard entry :=
      fun entry noted => (minor_logged entry noted).unheard
    cases move with
    | aside session added same idle minor =>
        simp only [Session.essence, Prod.mk.injEq] at same
        obtain ⟨-, ready, server, -, documents⟩ := same
        refine tracked.onward (fun entry member => (minor entry member).unheard) rfl server documents ?_
        rw [underway_append fun entry member => (minor entry member).not_borders, ready]
        exact id
    | told message added other handed =>
        refine tracked.onward ?_ rfl rfl rfl ?_
        · cases handed <;> simp [Unheard, other]
        · exact fun wakes => by rwa [View.noting, underway_append handed.steadfast.2.1] at wakes
    | refused server message served due =>
        refine tracked.onward (by simp [Unheard]) rfl rfl rfl fun wakes => ?_
        rwa [View.noting, underway_append (by simp [Borders, border?])] at wakes
    | answered server message data answer served due =>
        by_cases about : documentMethod? message = none
        · refine tracked.onward (by simp [Unheard, about]) rfl rfl rfl fun wakes => ?_
          rwa [View.noting, underway_append (by simp [Borders, border?])] at wakes
        · obtain ⟨ready, notice, rfl⟩ := due about
          constructor
          · change Obeys InSequence (view.entries ++ _)
            rw [List.append_cons, List.append_cons]
            exact (tracked.writes data served ready).snoc trivial
          · exact fun straight => (straight (astray_of_answered about [])).elim
    | synced notice added ready handed =>
        cases handed with
        | unserved nobody =>
            exact tracked.lost (by simp) rfl fun _ _ served => (served nobody).elim
        | ended number served =>
            refine tracked.lost (by simp [Unheard]) rfl fun _ reliable => ?_
            rw [wire_append] at reliable
            cases reliable
        | taken number data note served =>
            constructor
            · change Obeys InSequence (view.entries ++ _)
              rw [List.append_cons, List.append_cons]
              exact (tracked.writes data served ready).snoc trivial
            · intro straight reliable current _
              have told : wire (view.entries ++ [.looked number true,
                  .wrote number (notice.message view.session.documents) data, .logged note]) =
                    (wire view.entries).hear (notice.message view.session.documents) := by
                rw [wire_append]
                rfl
              rw [told] at reliable ⊢
              refine (tracked.agrees (fun astray => straight (astray.append _)) ?_ current
                (.inr ready)).heard notice
              exact (Wire.hear_reliable _ _).symm.trans reliable
    | strayed notice earlier server added lawful sane' ready served since interrupted stopping
        inside lost =>
        refine tracked.lost (by simp) (List.append_nil _).symm fun straight reliable current _ => ?_
        have about : documentMethod? (notice.message earlier.session.documents) ≠ none := by
          rw [documentMethod?_notice]
          simp
        dsimp only at straight reliable current
        rw [since] at straight reliable
        cases interrupted with
        | answered data answer rest => exact straight (astray_of_answered about rest)
        | refused rest =>
            rcases lost rest rfl with nobody | ends
            · exact current nobody
            · by_cases taken : ∃ number, Entry.serving (some number) ∈ rest
              · obtain ⟨number, taken⟩ := taken
                refine straight (astray_of_refused about ?_ (fun entry member => ?_) taken)
                · exact sane'.unsettled ready (stopping ▸ ends)
                · exact inside ends entry (by simp [member])
              · have parted : earlier.entries ++ .looked server true ::
                    .writeRefused server (notice.message earlier.session.documents) :: rest =
                    (earlier.entries ++ [.looked server true, .writeRefused server
                      (notice.message earlier.session.documents)]) ++ rest := by simp
                rw [parted] at reliable
                have failed := reliable_of_untaken (not_exists.mp taken) reliable
                rw [wire_append] at failed
                cases failed
    | opened notes unready going lost =>
        refine tracked.onward ?_ rfl rfl rfl fun _ => .inl (sane.not_underway going)
        exact List.forall_mem_append.mpr ⟨logging notes, by simp [Unheard]⟩
    | begun server served going =>
        exact tracked.onward (by simp [Unheard]) rfl rfl rfl fun _ => .inl (sane.not_underway going)
    | shutting notes ready stopping =>
        exact tracked.onward (logging notes) rfl rfl rfl fun _ => .inr ready
    | left server earlier later graceful running note stopping since inside kept hasty =>
        exact tracked.lost (unheard_departure _ server graceful running note) rfl
          fun _ _ served => (served rfl).elim
    | stopped notes stopping unready finished =>
        exact tracked.onward (logging notes) rfl rfl rfl fun _ => .inl finished
    | renewed root ready cause =>
        refine tracked.lost (by simp [Unheard]) rfl fun straight _ _ wakes => ?_
        rcases cause with hollow | ending
        · exact straight (hollow.append _).astray
        · rw [underway_append (by simp [Borders, border?]), ending] at wakes
          exact absurd wakes (by simp [Session.renewed])
    | adopted notes fresh free =>
        refine tracked.taking view.made (logging notes) (List.append_assoc ..).symm fun straight => ?_
        rcases fresh with hollow | ⟨-, cleared⟩
        · exact (straight (hollow.append _).astray).elim
        · exact cleared
    | restarted root notes unready free =>
        have dropping : ∀ entry ∈ .dropped :: notes.map Entry.logged, Unheard entry :=
          List.forall_mem_cons.mpr ⟨trivial, logging notes⟩
        exact tracked.taking view.made dropping (by simp) fun _ => rfl

end

/-! ## Runs -/

/-- The server of the session has not failed, nobody ends the session, and no version went astray. -/
def Faithful (world : World) : Prop :=
  world.session.server ≠ none ∧ underway world.journal.entries = false ∧
    (wire world.journal.entries).reliable = true ∧ ¬ Astray world.journal.entries

instance (world : World) : Decidable (Faithful world) :=
  inferInstanceAs (Decidable (_ ∧ _ ∧ _ ∧ _))

/-- Who asks for a version is told what the server was told. -/
def answeringFromWire (perform : Step → Act World Json) (step : Step) : Act World Json := do
  let world ← getThe World
  match step with
  | .version uri =>
    if Faithful world then
      return (((wire world.journal.entries).versions uri).map Json.nat).getD .null
    else perform step
  | _ => perform step

theorem Tracked.faithful {world : World} (tracked : Tracked world.view) (faithful : Faithful world) :
    Agrees (wire world.journal.entries) world.session.documents := by
  obtain ⟨served, going, reliable, straight⟩ := faithful
  exact tracked.agrees straight reliable served (.inl going)

theorem answeringFromWire_harmless : Harmless Tracked answeringFromWire := by
  intro nested step world governed
  simp only [answeringFromWire, result_bind, result_getWorld]
  split
  · next uri =>
    split
    · next faithful =>
      rw [← governed.lawful.faithful faithful uri]
      rfl
    · rfl
  · rfl

/-- An unencodable notice is dropped: the log tells of it, and nothing else is left. -/
theorem giveNotice_unencodable {world : World} (nested : Nested) (notice : Notice)
    {error : EncodeError} (ready : world.session.ready = true)
    (calm : world.session.abortRequested = false)
    (unencodable : Frame.encode (notice.message world.session.documents) = .error error) :
    result (giveNotice nested notice) world = (.ok (), world.noting
      (.logged (Log.failure "RPC" ("Dropping " ++ notice.method ++ ": " ++ error.message)))) := by
  have dropped : result (sendNotification nested notice.method
      (notice.params world.session.documents)) world = (.ok (.error error), world) := by
    unfold sendNotification
    rw [Notice.message] at unencodable
    simp only [unencodable]
    rfl
  have calls : result (notify nested notice.method (notice.params world.session.documents)) world =
      (.ok false, world.noting (.logged
        (Log.failure "RPC" ("Dropping " ++ notice.method ++ ": " ++ error.message)))) := by
    simp only [notify, result_bind, dropped]
    rfl
  simp only [giveNotice, result_bind, result_getSession, ready, if_true, calls]
  exact stopIfAborted_idle nested (.inl calm)

/-- What holds of the versions in a run of this script. -/
structure VersionsKept (fresh : World) (script : List Step) : Prop where
  sequenced : Obeys InSequence ((play fresh script).flatMap Turn.entries)
  agrees : ∀ turn ∈ play fresh script, Faithful turn.after →
    Agrees (wire turn.after.journal.entries) turn.after.session.documents
  /-- Also inside calls, whoever asks is told what the server was told. -/
  answered : turns (answeringFromWire (performWith (tower answeringFromWire (depthFor script))))
    fresh script = play fresh script
  unencodable : ∀ (world : World) nested notice error, world.session.ready = true →
    world.session.abortRequested = false →
    Frame.encode (notice.message world.session.documents) = .error error →
    result (giveNotice nested notice) world = (.ok (), world.noting
      (.logged (Log.failure "RPC" ("Dropping " ++ notice.method ++ ": " ++ error.message))))

/--
In every run, as long as its server runs and refuses nothing, what a server is told of versions
is in sequence, and the session keeps for each document what its server was told last.
-/
theorem versions_on_wire (settings : Settings) (factory : Conduct) (script : List Step) :
    VersionsKept { settings := settings, factory := factory } script := by
  have fresh (settings : Settings) : Tracked ⟨{}, [], settings, 0⟩ :=
    ⟨obeys_nil, fun _ _ served => (served rfl).elim⟩
  have paused : Paused Tracked { settings := settings, factory := factory } :=
    paused_fresh settings factory (fresh settings)
  have kept : Paused Tracked (leftBy { settings := settings, factory := factory }
      (play { settings := settings, factory := factory } script)) :=
    Reached.paused fresh ⟨settings, factory, depthFor script, script, rfl⟩
  constructor
  · have sequenced := kept.lawful.sequenced
    rwa [view_entries, entries_play] at sequenced
  · intro taken member faithful
    obtain ⟨step, before, paused, rfl⟩ := exists_before paused member
    exact (turn_performed paused step (depthFor script)).lawful.faithful faithful
  · exact turns_tower answeringFromWire_harmless paused script
  · intro world nested notice error ready calm unencodable
    exact giveNotice_unencodable nested notice ready calm unencodable

/-! ## A version that outlives its session -/

/-- A session with a reliable server keeps just the versions that this server was told. -/
def KeepsWhatWasTold (world : World) : Prop :=
  world.session.server ≠ none → underway world.journal.entries = false →
    (wire world.journal.entries).reliable = true →
    Agrees (wire world.journal.entries) world.session.documents

/--
A listener stops the session while the handshake writes, so it is ready without a server.  When
the next start takes that back, a listener starts a session of its own and opens a document.
-/
def inheriting : List Step :=
  let accepted : Json := .object [("id", .nat 1), ("result", .object [])]
  [.subscribe .log ⟨"log", "stops", [.stop], none, false⟩,
    .subscribe .ready ⟨"ready", "restarts",
      [.start "srv" [] none, .send none accepted, .didOpen "a" "cpp" (.string "t"),
        .didChange "a" (.string "u")], some (.bool false), false⟩,
    .start "srv" [] none,
    .set (some 0) none fun conduct => { conduct with refusesWrite := fun _ => some "broken" },
    .send (some 0) accepted,
    .start "srv" [] none]

/-- The server that the start takes has been told nothing of the document. -/
theorem inheriting_keeps_more : ¬ KeepsWhatWasTold (leftBy {} (play {} inheriting)) := by
  intro keeps
  have kept := keeps (by decide +kernel) (by decide +kernel) (by decide +kernel) "a"
  exact absurd kept (by decide +kernel)

end Client

end LanguageSession
