import Mathlib
import LanguageSession.Proofs.Client.Placement
import LanguageSession.Proofs.Documents

/-!
# A stop from inside a call

A listener or a handler may stop the session in the middle of a call.  When that call has returned
the session has no server, nobody waits and nothing is left of its output, and nothing is handed
over once the session has been left.  It is not ready either and has no versions of documents,
unless the write of `initialized` or of a notice was cut short: the call that wrote it goes on to
keep what the stop has just cleared.
-/

namespace LanguageSession

namespace Client

open Act

/-! ## Writes that were cut short -/

/-- The write of `initialized` was refused, or answered before it had returned. -/
def OpeningCut (entries : List Entry) : Prop :=
  ∃ before server rest, entries = before ++ rest ∧ Interrupted server opening rest

/-- A version of the document is kept after the notice. -/
def Notice.Keeps (uri : Text) : Notice → Prop
  | .opened other _ _ => other = uri
  | .changed other _ => other = uri
  | .closed _ => False

/-- The write of a notice that keeps a version of the document was cut short. -/
def NoticeCut (uri : Text) (entries : List Entry) : Prop :=
  ∃ before server documents notice rest, entries = before ++ rest ∧ Notice.Keeps uri notice ∧
    Interrupted server (notice.message documents) rest

theorem OpeningCut.append {entries : List Entry} (cut : OpeningCut entries) (later : List Entry) :
    OpeningCut (entries ++ later) := by
  obtain ⟨before, server, rest, rfl, interrupted⟩ := cut
  exact ⟨before, server, rest ++ later, List.append_assoc .., interrupted.append later⟩

theorem NoticeCut.append {uri : Text} {entries : List Entry} (cut : NoticeCut uri entries)
    (later : List Entry) : NoticeCut uri (entries ++ later) := by
  obtain ⟨before, server, documents, notice, rest, rfl, keeps, interrupted⟩ := cut
  exact ⟨before, server, documents, notice, rest ++ later, List.append_assoc .., keeps,
    interrupted.append later⟩

theorem Notice.version?_apply {documents : Documents} {notice : Notice} {uri : Text}
    (other : ¬ notice.Keeps uri) (untracked : documents.version? uri = none) :
    (notice.apply documents).version? uri = none := by
  cases notice with
  | opened uri' language text =>
      rw [Notice.apply, Documents.version?_openDocument, if_neg (Ne.symm other), untracked]
  | changed uri' text =>
      rw [Notice.apply, Documents.version?_change, if_neg (Ne.symm other), untracked]
  | closed uri' =>
      rw [Notice.apply, Documents.version?_close, untracked, ite_self]

/-! ## A session without a server -/

/-- What a session without a server has, if these entries were noted since it was known. -/
structure Bare (added : List Entry) (view : View) : Prop where
  pending : view.session.pending.entries = []
  buffer : view.session.buffer = []
  stopped : view.session.stopping = false → ¬ OpeningCut added →
    view.session.ready = false ∧
      (view.session.phase = .stopped ∨ view.session.phase = .notStarted ∧ view.made = 0)
  untracked : view.session.stopping = false → ¬ OpeningCut added →
    ∀ uri, ¬ NoticeCut uri added → view.session.documents.version? uri = none

/-- A session without a server is bare, as far as is known since `origin`. -/
def BareSince (origin : List Entry) (view : View) : Prop :=
  ∃ added, view.entries = origin ++ added ∧ (view.session.server = none → Bare added view)

section

variable {origin : List Entry} {view view' : View} {added later : List Entry}

/-- What tells of the session stays as it is. -/
theorem Bare.onward (bare : Bare added view)
    (pending : view'.session.pending.entries ⊆ view.session.pending.entries)
    (buffer : view'.session.buffer = view.session.buffer)
    (same : view'.session.essence = view.session.essence) (made : view'.made = view.made) :
    Bare (added ++ later) view' := by
  simp only [Session.essence, Prod.mk.injEq] at same
  obtain ⟨phase, ready, -, stopping, documents⟩ := same
  constructor
  · rw [bare.pending] at pending
    exact List.eq_nil_of_subset_nil pending
  · exact buffer.trans bare.buffer
  · intro going uncut
    rw [phase, ready, made]
    exact bare.stopped (stopping ▸ going) fun cut => uncut (cut.append later)
  · intro going uncut uri kept
    rw [documents]
    exact bare.untracked (stopping ▸ going) (fun cut => uncut (cut.append later)) uri
      fun cut => kept (cut.append later)

theorem Bare.cut (bare : Bare added view) (ready : view.session.ready = true)
    (going : view.session.stopping = false) : OpeningCut added := by
  by_contra uncut
  have unready := (bare.stopped going uncut).1
  rw [ready] at unready
  cases unready

/-- After the write of `initialized` was cut short little is known. -/
theorem bare_of_cut (pending : view'.session.pending.entries = []) (buffer : view'.session.buffer = [])
    (cut : view'.session.stopping = false → OpeningCut (added ++ later)) :
    Bare (added ++ later) view' where
  pending := pending
  buffer := buffer
  stopped going uncut := (uncut (cut going)).elim
  untracked going uncut := (uncut (cut going)).elim

theorem BareSince.bare (lawful : BareSince origin view) (nobody : view.session.server = none)
    (entries : view.entries = origin ++ added) : Bare added view := by
  obtain ⟨added', grown, bare⟩ := lawful
  have same : added' = added := List.append_cancel_left (grown.symm.trans entries)
  exact same ▸ bare nobody

theorem bareSince_of_served (lawful : BareSince origin view)
    (entries : view'.entries = view.entries ++ later) (served : view'.session.server ≠ none) :
    BareSince origin view' := by
  obtain ⟨added, grown, -⟩ := lawful
  exact ⟨added ++ later, by rw [entries, grown, List.append_assoc], fun nobody =>
    (served nobody).elim⟩

theorem BareSince.onward (lawful : BareSince origin view)
    (entries : view'.entries = view.entries ++ later)
    (bare : view'.session.server = none → ∀ added, view.entries = origin ++ added →
      Bare (added ++ later) view') : BareSince origin view' := by
  obtain ⟨added, grown, -⟩ := lawful
  exact ⟨added ++ later, by rw [entries, grown, List.append_assoc], fun nobody =>
    bare nobody added grown⟩

end

instance (origin : List Entry) : Upheld (BareSince origin) where
  move {view view'} sane lawful move := by
    cases move with
    | aside session added same idle minor =>
        refine lawful.onward rfl fun nobody earlier grown => ?_
        have nobody : view.session.server = none := by
          simp only [Session.essence, Prod.mk.injEq] at same
          exact same.2.2.1.symm.trans nobody
        obtain ⟨pending, buffer⟩ := idle nobody
        exact (lawful.bare nobody grown).onward pending buffer same rfl
    | told message added other handed =>
        refine lawful.onward rfl fun nobody earlier grown => ?_
        exact (lawful.bare nobody grown).onward (List.Subset.refl _) rfl rfl rfl
    | refused server message served due =>
        exact bareSince_of_served lawful rfl (served ▸ Option.some_ne_none server)
    | answered server message data answer served due =>
        exact bareSince_of_served lawful rfl (served ▸ Option.some_ne_none server)
    | synced notice added ready handed =>
        refine lawful.onward rfl fun nobody earlier grown => ?_
        have bare := lawful.bare nobody grown
        exact bare_of_cut bare.pending bare.buffer fun going => (bare.cut ready going).append _
    | strayed notice former server added lawful' sane' ready served since interrupted stopping inside
        lost =>
        refine lawful.onward (List.append_nil _).symm fun nobody earlier grown => ?_
        have bare := lawful.bare nobody grown
        obtain ⟨past, grown', -⟩ := lawful'
        have split : earlier = past ++ added := by
          rw [grown', List.append_assoc, grown] at since
          exact List.append_cancel_left since
        rw [List.append_nil]
        refine ⟨bare.pending, bare.buffer, bare.stopped, fun going uncut uri kept => ?_⟩
        refine Notice.version?_apply (fun keeps => kept ?_) (bare.untracked going uncut uri kept)
        exact ⟨past, server, former.session.documents, notice, added, split, keeps, interrupted⟩
    | opened notes unready going lost =>
        refine lawful.onward rfl fun nobody earlier grown => ?_
        have bare := lawful.bare nobody grown
        obtain ⟨former, server, added, ⟨past, grown', -⟩, since, interrupted⟩ := lost nobody
        have split : earlier = past ++ added := by
          rw [grown', List.append_assoc, grown] at since
          exact List.append_cancel_left since
        have cut : OpeningCut earlier := ⟨past, server, added, split, interrupted⟩
        exact bare_of_cut bare.pending bare.buffer fun _ => cut.append _
    | begun server served going =>
        exact bareSince_of_served lawful rfl (served ▸ Option.some_ne_none server)
    | shutting notes ready stopping =>
        refine lawful.onward rfl fun nobody earlier grown => ?_
        have bare := lawful.bare nobody grown
        exact bare_of_cut bare.pending bare.buffer fun going => by
          rw [stopping] at going; cases going
    | left server earlier later graceful running note stopping since inside kept hasty =>
        refine lawful.onward rfl fun nobody earlier grown => ?_
        exact bare_of_cut rfl rfl fun going => by rw [Session.left, stopping] at going; cases going
    | stopped notes stopping unready finished =>
        refine lawful.onward rfl fun nobody earlier grown => ?_
        have bare := lawful.bare nobody grown
        have cleared := (sane.settled stopping finished).2
        refine ⟨bare.pending, bare.buffer, fun _ _ => ⟨unready, .inl rfl⟩, fun _ _ uri _ => ?_⟩
        change view.session.documents.version? uri = none
        rw [cleared, Documents.version?_empty]
    | renewed root ready cause =>
        refine lawful.onward rfl fun nobody earlier grown => ?_
        have bare := lawful.bare nobody grown
        exact bare_of_cut rfl rfl fun going => (bare.cut ready going).append _
    | adopted notes fresh free =>
        exact bareSince_of_served lawful rfl (Option.some_ne_none view.made)
    | restarted root notes unready free =>
        exact bareSince_of_served lawful rfl (Option.some_ne_none view.made)

theorem bareSince_fresh (settings : Settings) : BareSince [] ⟨{}, [], settings, 0⟩ := by
  refine ⟨[], rfl, fun _ => ⟨rfl, rfl, fun _ _ => ⟨rfl, .inr ⟨rfl, rfl⟩⟩, fun _ _ uri _ => ?_⟩⟩
  exact Documents.version?_empty uri

/-! ## A stop during a call -/

/-- A stop has returned, or the session was left. -/
def ends : Entry → Bool
  | .did operation _ => operation = ("stop" : Text)
  | .serving server => server.isNone
  | _ => false

/-- If the session has no server, it is not ready and there are no versions of documents. -/
structure Deserted (world : World) : Prop where
  stopped : world.session.server = none → world.session.ready = false ∧
    (world.session.phase = .stopped ∨ world.session.phase = .notStarted ∧ world.servers = [])
  untracked : world.session.server = none → ∀ uri, world.session.documents.version? uri = none

/-- What is left of a session that was stopped during a turn from this world. -/
structure Finished (world : World) (taken : Turn World) : Prop where
  server : taken.after.session.server = none
  going : taken.after.session.stopping = false
  pending : taken.after.session.pending.entries = []
  buffer : taken.after.session.buffer = []
  /-- Nothing is handed over after a stop that returned when no end was under way. -/
  stops : ∀ before result after, taken.entries = before ++ .did "stop" result :: after →
    underway before = false → ∀ entry ∈ after, ¬ HandsOver entry
  /-- Nothing is handed over after the session was left. -/
  left : ∀ before after, taken.entries = before ++ .serving none :: after →
    ∀ entry ∈ after, ¬ HandsOver entry
  stopped : Deserted world → ¬ OpeningCut taken.entries → taken.after.session.ready = false ∧
    (taken.after.session.phase = .stopped ∨
      taken.after.session.phase = .notStarted ∧ taken.after.servers = [])
  untracked : Deserted world → ¬ OpeningCut taken.entries → ∀ uri, ¬ NoticeCut uri taken.entries →
    taken.after.session.documents.version? uri = none

section

variable {world : World} {step : Step} {depth : Nat}

theorem BareSince.deserted (lawful : BareSince [] world.view)
    (going : world.session.stopping = false) (opened : ¬ OpeningCut world.journal.entries)
    (kept : ∀ uri, ¬ NoticeCut uri world.journal.entries) : Deserted world := by
  constructor
  · intro nobody
    have bare := lawful.bare nobody (List.nil_append _).symm
    have stopped := bare.stopped going opened
    simpa using stopped
  · intro nobody uri
    exact (lawful.bare nobody (List.nil_append _).symm).untracked going opened uri (kept uri)

/-- Only a write that was cut short leaves something of a session that has no server. -/
theorem deserted_of_uncut (reached : Reached world) (opened : ¬ OpeningCut world.journal.entries)
    (kept : ∀ uri, ¬ NoticeCut uri world.journal.entries) : Deserted world := by
  have paused : Paused (BareSince []) world := reached.paused bareSince_fresh
  exact paused.lawful.deserted paused.going opened kept

theorem Deserted.paused (deserted : Deserted world) (paused : Paused (BareSince []) world) :
    Paused (BareSince world.journal.entries) world := by
  refine ⟨⟨paused.sane, [], (List.append_nil _).symm, fun nobody => ?_⟩, paused.going⟩
  have bare := paused.lawful.bare nobody (List.nil_append _).symm
  refine ⟨bare.pending, bare.buffer, fun _ _ => ?_, fun _ _ uri _ => deserted.untracked nobody uri⟩
  simpa using deserted.stopped nobody

/-- The session has no server after a turn in which it was stopped. -/
theorem unserved_of_ends {added : List Entry} {world' : World} {started : Prop}
    (passage : Passage started world.view added world'.view) (sane : Sane world'.view)
    (going : world.session.stopping = false) (ended : added.any ends = true)
    (untaken : ∀ server, .serving (some server) ∉ added) : world'.session.server = none := by
  obtain ⟨entry, member, marks⟩ := List.any_eq_true.mp ended
  cases entry with
  | did operation result =>
      obtain rfl : operation = "stop" := of_decide_eq_true marks
      exact passage.stopped going result member untaken
  | serving server =>
      obtain rfl : server = none := Option.isNone_iff_eq_none.mp marks
      obtain ⟨before, after, rfl⟩ := List.append_of_mem member
      have left : (standing (world.journal.entries ++ before ++ [.serving none])).server = none := by
        rw [standing_snoc]
        rfl
      have entries : world'.journal.entries =
          (world.journal.entries ++ before ++ [.serving none]) ++ after := by
        rw [show world'.journal.entries = _ from passage.entries]
        simp
      rw [← view_session, ← sane.served, view_entries, entries]
      exact standing_unserved left fun server member => untaken server (by simp [member])
  | _ => cases marks

/--
When the session is stopped during a call of any kind, by whatever callback, and nobody starts
another, then it is over when the call has returned.
-/
theorem finished_of_stop (depth : Nat) (reached : Reached world) (step : Step)
    (ended : (turn (performWith (nestedCalls depth)) world step).entries.any ends = true)
    (untaken : (turn (performWith (nestedCalls depth)) world step).entries.any takes = false) :
    Finished world (turn (performWith (nestedCalls depth)) world step) := by
  have bare : Paused (BareSince []) world := reached.paused bareSince_fresh
  have aims : Paused Aims world := reached.paused fun _ => obeys_nil
  -- between two turns no session is ending
  have settled : underway world.journal.entries = false := by
    by_contra ending
    have stopping := bare.sane.underway (by simpa using ending)
    rw [view_session, bare.going] at stopping
    cases stopping
  have untaken := untaken_of_takes untaken
  obtain ⟨added, passage, -⟩ := (turn_performed bare step depth).passage
  have noted := turn_noted passage
  rw [noted] at ended untaken
  have after := turn_performed bare step depth
  have nobody := unserved_of_ends passage after.sane bare.going ended untaken
  have rests := after.lawful.bare nobody (List.nil_append _).symm
  constructor
  · exact nobody
  · exact passage.stopping.trans bare.going
  · exact rests.pending
  · exact rests.buffer
  · intro before result later split outside
    rw [noted] at split
    refine passage.finished bare.going before result later split ?_ untaken
    rw [view_entries, underway, List.foldl_append]
    change List.foldl _ (underway world.journal.entries) before = false
    rwa [settled]
  · intro before later split
    rw [noted] at split
    have aimed : Obeys Aimed _ := (turn_performed aims step depth).lawful
    have parted : (turn (performWith (nestedCalls depth)) world step).after.view.entries =
        (world.journal.entries ++ before) ++ .serving none :: later := by
      rw [passage.entries, split]
      simp
    exact aimed.silent_after parted fun server member => untaken server (by simp [split, member])
  · intro deserted uncut
    have lawful := (turn_performed (deserted.paused bare) step depth).lawful
    have stopped := (lawful.bare nobody passage.entries).stopped
      (passage.stopping.trans bare.going) (noted ▸ uncut)
    simpa using stopped
  · intro deserted uncut uri kept
    have lawful := (turn_performed (deserted.paused bare) step depth).lawful
    exact (lawful.bare nobody passage.entries).untracked (passage.stopping.trans bare.going)
      (noted ▸ uncut) uri (noted ▸ kept)

end

/-- A listener stops the session while the response to its request is handled. -/
def halting : List Step :=
  [.start "srv" [] none, .send none (.object [("id", .nat 1), ("result", .object [])]),
    .didOpen "a" "cpp" (.string "t"),
    .request "x" .null (some ⟨"handler", "h", [.stop], none, false⟩)]

def haltingWorld : World := leftBy {} (turns (performWith (nestedCalls 1)) {} halting)

def answering : Step := .send none (.object [("id", .nat 2), ("result", .nat 7)])

theorem finished_of_answer :
    (haltingWorld.session.ready = true ∧ haltingWorld.session.documents.version? "a" = some 1) ∧
      Finished haltingWorld (turn (performWith (nestedCalls 1)) haltingWorld answering) :=
  ⟨by decide +kernel, finished_of_stop 1 ⟨{}, {}, 1, halting, rfl⟩ answering (by decide +kernel)
    (by decide +kernel)⟩

/-! ## A stop while the session is ending -/

/-- Nothing is handed over between the return of a stop and the next start. -/
def SilentAfterStops (journal : List Entry) : Prop :=
  ∀ before result between entry after,
    journal = before ++ .did "stop" result :: between ++ entry :: after →
      between.any takes = false → ¬ HandsOver entry

/-- A listener hears that the request to shut down was not written, and stops the session. -/
def heldStop : List Step :=
  [.subscribe .log ⟨"log", "L", [.stop], none, false⟩,
    .start "srv" [] none,
    .send none (.object [("id", .nat 1), ("result", .object [])]),
    .set none none fun conduct => { conduct with refusesWrite := fun _ => some "broken" },
    .stop]

def goesOn : List Entry → Bool
  | .did operation _ :: .looked _ _ :: .writeRefused _ _ :: _ => operation = ("stop" : Text)
  | _ => false

theorem goesOn_eq_true {journal : List Entry} (goes : goesOn journal = true) :
    ∃ result server running other message after,
      journal = .did "stop" result :: .looked server running :: .writeRefused other message ::
        after := by
  unfold goesOn at goes
  split at goes
  · obtain rfl := of_decide_eq_true goes
    exact ⟨_, _, _, _, _, _, rfl⟩
  · cases goes

/-- That stop returns at once, and the one that is under way goes on to part from the server. -/
theorem heldStop_goes_on : ¬ SilentAfterStops ((play {} heldStop).flatMap Turn.entries) := by
  intro silent
  generalize same : (play {} heldStop).flatMap Turn.entries = journal at silent
  have goes : goesOn (journal.drop 25) = true := by
    rw [← same]
    decide +kernel
  have split := List.take_append_drop 25 journal
  obtain ⟨result, server, running, other, message, after, rest⟩ := goesOn_eq_true goes
  rw [rest] at split
  exact silent _ result [.looked server running] (.writeRefused other message) after
    (by simpa using split.symm) rfl trivial

end Client

end LanguageSession
