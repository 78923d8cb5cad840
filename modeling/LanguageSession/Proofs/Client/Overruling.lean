import Mathlib
import LanguageSession.Proofs.Client.Brackets
import LanguageSession.Proofs.Client.Placement

/-!
# The end has the last word

Listeners that are told of the end of a session may start the next one at once.  The end goes on
when they have returned, and leaves the session marked as stopped although it has the new server.
If the session is ended by a start, that takes another server instead, and nobody ends the one
that the listeners have started.
-/

namespace LanguageSession

namespace Client

open Act

/-! ## Ends -/

section

variable {nested nested' : Nested} {base world : World}

theorem ensures_after {α β : Type} {action : Act World α} {next : α → Act World β}
    {post : Except Fault β → World → Prop} (succeeds : Succeeds action)
    (brings : ∀ value world, Ensures (next value) world post) :
    Ensures (action >>= next) world post :=
  succeeds.ensures_bind (ensures_true _ _) fun value world _ =>
    brings value world

theorem forget_stops (nested : Nested) (server : Nat) (world : World) :
    Ensures (forget nested server) world fun ending after =>
      ending = .ok () ∧ after.session.phase = .stopped := by
  have settles (world : World) : Ensures (do
      setPhase .stopped
      modifyThe Session fun session => { session with stopping := false } : Act World Unit) world
      fun ending after => ending = .ok () ∧ after.session.phase = .stopped := by
    rw [ensures_bind]
    refine (setPhase_views .stopped world).mono ?_
    rintro _ after ⟨rfl, notes, view⟩
    exact ⟨rfl, congrArg (fun view => view.session.phase) view⟩
  refine ensures_after succeeds_get fun _ _ => ?_
  refine ensures_after (record_succeeds _) fun _ _ => ?_
  refine ensures_after (modifySession_succeeds _) fun _ _ => ?_
  refine ensures_after (succeeds_write _) fun _ _ => ?_
  refine ensures_after (succeeds_write _) fun _ _ => ?_
  exact ensures_after (setReady_succeeds false) fun _ world => settles world

/-- Whether or not the server can be closed, the session counts as stopped. -/
theorem dismissal_stops (nested : Nested) (server : Nat) (graceful : Bool) (world : World) :
    Ensures (do
      try dismiss server graceful
      catch fault => forget nested server; throw fault
      forget nested server : Act World Unit) world fun _ after => after.session.phase = .stopped := by
  rw [ensures_bind, ensures_tryCatch]
  refine (ensures_true _ world).mono fun ending middle _ => ?_
  cases ending with
  | ok _ => exact (forget_stops nested server middle).mono fun _ _ => And.right
  | error fault =>
      dsimp only
      rw [ensures_bind]
      refine (forget_stops nested server middle).mono ?_
      rintro _ after ⟨rfl, stopped⟩
      exact stopped

/-- A session that was to be aborted is as it was, or counts as stopped. -/
theorem stopIfAborted_stops (nested : Nested) (world : World) :
    Ensures (stopIfAborted nested) world fun _ after =>
      after = world ∨ after.session.phase = .stopped := by
  cases aborted : world.session.abortRequested with
  | false =>
      rw [Ensures, stopIfAborted_idle nested (.inl aborted)]
      exact .inl rfl
  | true =>
      simp only [stopIfAborted, stop, ensures_bind, ensures_getSession]
      split
      · split
        · exact .inl rfl
        · next server served =>
          simp only [ensures_bind, ensures_getSession, served]
          split
          · exact .inl rfl
          · rw [Ensures, result_endSession_aborted nested server aborted]
            exact .inr (dismissal_stops nested server false _)
      · exact .inl rfl

variable {law : View → Prop} [Upheld law] (paired : Paired law nested nested')

include paired

theorem endSession_stops (governed : Governed law world) {server : Nat}
    (served : world.session.server = some server) (going : world.session.stopping = false) :
    Ensures (endSession nested server) world fun _ after => after.session.phase = .stopped := by
  simp only [endSession, ensures_bind, ensures_modifySession, ensures_write, add_eq_noting]
  have governed' : Governed law (World.noting { world with
      session := { world.session with stopping := true } } (.ending server)) :=
    governed.move (.begun server served going)
  refine (askToEnd_mirrors paired governed' server rfl).2.mono ?_
  rintro _ after ⟨-, graceful, rfl, -⟩
  dsimp only
  rw [← ensures_bind]
  exact dismissal_stops nested server graceful after

theorem stop_stops (governed : Governed law world) (expected : Option Nat) :
    Ensures (stop nested expected) world fun _ after =>
      after = world ∨ after.session.phase = .stopped := by
  simp only [stop, ensures_bind, ensures_getSession]
  split
  · exact .inl rfl
  · next server served =>
    split
    · exact .inl rfl
    · next goes =>
      have going : world.session.stopping = false := by
        cases stopping : world.session.stopping with
        | false => rfl
        | true => simp [stopping] at goes
      exact (endSession_stops paired governed served going).mono fun _ _ => .inr

end

/-! ## Steps -/

/-- Unless it ended the session, a call has only let others end it. -/
def Concludes (world world' : World) : Prop :=
  Lengthens Biding world world' ∨ world'.session.phase = .stopped

/-- The session is not ended here, and its phase stays. -/
def Rests (world world' : World) : Prop :=
  Lengthens Biding world world' ∧ world'.session.phase = world.session.phase

instance : IsPreorder World Rests where
  refl world := ⟨refl_of (Lengthens Biding) world, rfl⟩
  trans _ _ _ first second :=
    ⟨trans_of (Lengthens Biding) first.1 second.1, second.2.trans first.2⟩

instance : Obliging Rests where
  noting world entry mild := ⟨Obliging.noting world entry mild, rfl⟩
  modifying _ _ _ _ := ⟨lengthens_of_journal rfl, rfl⟩
  resuming _ _ bearing _ _ := ⟨lengthens_of_journal rfl, congrArg Prod.fst bearing⟩
  arranging _ _ journal session _ _ _ _ _ _ :=
    ⟨lengthens_of_journal journal, congrArg Session.phase session⟩

section

variable {nested nested' : Nested} {base world world' : World}

theorem Concludes.rest (concludes : Concludes base world) (rests : Rests world world') :
    Concludes base world' :=
  concludes.imp (fun bides => trans_of (Lengthens Biding) bides rests.1) rests.2.trans

theorem concludes_of_stops (bides : Lengthens Biding base world)
    (stops : world' = world ∨ world'.session.phase = .stopped) : Concludes base world' := by
  rcases stops with rfl | stopped
  · exact .inl bides
  · exact .inr stopped

theorem concludes_of_bides {α : Type} {action : Act World α}
    (bides : Within (Lengthens Biding) action) : Ensures action world fun _ => Concludes world :=
  (bides world).mono fun _ _ => .inl

theorem Concludes.resting {α β : Type} {action : Act World α} {next : α → Act World β}
    (first : Ensures action world fun _ => Concludes base) (rests : ∀ value, Within Rests (next value)) :
    Ensures (action >>= next) world fun _ => Concludes base :=
  Ensures.bind first fun value middle concludes =>
    (rests value middle).mono fun _ _ later => concludes.rest later

theorem stopIfAborted_concludes (bides : Lengthens Biding base world) :
    Ensures (stopIfAborted nested) world fun _ => Concludes base :=
  (stopIfAborted_stops nested world).mono fun _ _ => concludes_of_stops bides

variable (playing : Playing Biding nested)

include playing

theorem Playing.speaking : Speaking (Lengthens Biding) nested := playing.answering.speaking

theorem request_concludes (method : Text) (params : Json) {handler : Option Handler}
    (other : ∀ waiting ∈ handler, waiting ≠ .handshake) (bides : Lengthens Biding base world) :
    Ensures (request nested method params handler) world fun _ => Concludes base := by
  unfold request
  rw [ensures_bind]
  have awaits : ∀ waiting ∈ handler, Awaits (Lengthens Biding) waiting :=
    fun waiting _ => lengthens_awaits waiting
  refine ((trySend_within playing.speaking method params awaits).later bides).mono
    fun ending middle bides => ?_
  cases ending with
  | error fault => exact .inl bides
  | ok sent =>
      cases sent with
      | error error =>
          cases handler with
          | none => exact .inl bides
          | some handler =>
              have told := (playing.complete handler (Completion.failure error)
                (other handler rfl)).later bides
              exact Concludes.resting (told.mono fun _ _ => .inl) fun _ => within_pure _
      | ok id => exact Concludes.resting (stopIfAborted_concludes bides) fun _ => within_pure _

theorem requestSync_concludes (method : Text) (params : Json) (timeout : Option Duration) :
    Ensures (requestSync nested method params timeout) world fun _ => Concludes world := by
  have other : ∀ waiting ∈ some (Handler.mailbox world.nextSlot), waiting ≠ .handshake := by simp
  have asked := request_concludes playing method params other
    (show Lengthens Biding world { world with nextSlot := world.nextSlot + 1 } from
      lengthens_of_journal rfl)
  unfold requestSync
  rw [ensures_bind]
  simp only [ensures_get]
  rw [ensures_bind]
  simp only [ensures_modify]
  refine Concludes.resting asked fun _ => Within.bind (collectMail_within _ _) fun found => ?_
  cases found with
  | some completion => exact within_pure _
  | none =>
      refine Within.bind (within_ofExcept _) fun tenths => ?_
      refine Within.bind (within_unmarked ?_) fun _ => within_pure _
      exact unmarked_of_component "RPC" rfl (by decide)

theorem giveNotice_concludes (notice : Notice) :
    Ensures (giveNotice nested notice) world fun _ => Concludes world := by
  simp only [giveNotice, ensures_bind, ensures_getSession]
  split
  · rw [ensures_bind]
    refine (notify_within playing.speaking _ _ world).mono fun ending middle bides => ?_
    cases ending with
    | error fault => exact .inl bides
    | ok sent =>
        cases sent with
        | false => exact stopIfAborted_concludes bides
        | true =>
            simp only [if_true, ensures_bind, ensures_modifySession]
            exact stopIfAborted_concludes
              (trans_of (Lengthens Biding) bides (lengthens_of_journal rfl))
  · exact .inl (refl_of (Lengthens Biding) world)

theorem receive_concludes (server : Nat) (data : Bytes) :
    Ensures (receive nested server data) world fun _ =>
      Concludes (world.noting (.arrived server data)) :=
  playing.answering.receive_since server data (fun _ => .inl) fun _ => stopIfAborted_concludes

variable {law : View → Prop} [Upheld law] (paired : Paired law nested nested')

include paired

theorem serverEnded_concludes (governed : Governed law world) (server : Nat) (code : Option Int) :
    Ensures (serverEnded nested server code) world fun _ => Concludes world := by
  simp only [serverEnded, ensures_bind, ensures_getSession]
  split
  · rw [ensures_bind, record, ensures_write, add_eq_noting, ensures_bind]
    have noted : Lengthens Biding world (world.noting (.logged (Log.serverExited code))) :=
      lengthens_noting world trivial
    have governed' : Governed law (world.noting (.logged (Log.serverExited code))) :=
      governed.noting trivial
    have told := (playing.speaking.tells "LSP process exited.").later noted
    have onward := (emitLog_mirrors paired governed'.here "LSP process exited.").2
    refine (told.and onward).mono ?_
    rintro ending middle ⟨bides, onward⟩
    cases ending with
    | error fault => exact .inl bides
    | ok _ =>
        exact (stop_stops paired onward.toGoverned (some server)).mono fun _ _ =>
          concludes_of_stops bides
  · exact .inl (refl_of (Lengthens Biding) world)

end

/-- How much output the step itself brings. -/
def Step.heralds : Step → Nat
  | .send _ _ => 1
  | .raw _ _ => 1
  | _ => 0

section

variable {nested nested' : Nested} {world : World} (playing : Playing Biding nested)

include playing

/-- A step that brings output does nothing before the output has arrived. -/
theorem performWith_hears {step : Step} (heralds : step.heralds = 1) :
    Ensures (performWith nested step) world fun _ after =>
      after = world ∨ ∃ server data, Concludes (world.noting (.arrived server data)) after := by
  have hears (server : Option Nat) (data : Bytes) :
      Ensures (do withServer server fun server => receive nested server data; return Json.null)
        world fun _ after =>
          after = world ∨ ∃ server data, Concludes (world.noting (.arrived server data)) after := by
    refine Ensures.bind (ensures_withServer (.inl rfl) fun server => ?_) fun _ _ heard => heard
    exact (receive_concludes playing server data).mono fun _ _ concludes =>
      .inr ⟨server, data, concludes⟩
  cases step with
  | send server message =>
      simp only [performWith]
      rw [ensures_bind, ensures_ofExcept]
      split
      · exact hears server _
      · exact .inl rfl
  | raw server data => exact hears server data
  | _ => cases heralds

variable {law : View → Prop} [Upheld law] (paired : Paired law nested nested')

include paired

theorem performWith_concludes (governed : Governed law world) {step : Step}
    (other : step.operation ≠ "start") (heralds : step.heralds = 0) :
    Ensures (performWith nested step) world fun _ => Concludes world := by
  have here : Lengthens Biding world world := refl_of (Lengthens Biding) world
  cases step with
  | start command arguments root => exact (other rfl).elim
  | stop =>
      refine Concludes.resting ?_ fun _ => within_pure _
      exact (stop_stops paired governed none).mono fun _ _ => concludes_of_stops here
  | waitReady timeout =>
      exact concludes_of_bides (Within.bind (waitReady_within _) fun _ => within_pure _)
  | version uri => exact concludes_of_bides (Within.bind within_getSession fun _ => within_pure _)
  | request method params handler =>
      cases handler with
      | none =>
          refine Concludes.resting ?_ fun _ => within_pure _
          exact request_concludes playing method params (by simp) here
      | some callback =>
          simp only [performWith]
          rw [ensures_bind, ensures_addCallback]
          refine Concludes.resting (request_concludes playing method params (by simp)
            (lengthens_of_journal rfl)) fun id => ?_
          exact Within.bind (within_mild trivial) fun _ => within_pure _
  | requestSync method params timeout =>
      exact Concludes.resting (requestSync_concludes playing method params timeout)
        fun _ => within_pure _
  | didOpen uri language text =>
      exact Concludes.resting (giveNotice_concludes playing (.opened uri language text))
        fun _ => within_pure _
  | didChange uri text =>
      exact Concludes.resting (giveNotice_concludes playing (.changed uri text))
        fun _ => within_pure _
  | didClose uri =>
      exact Concludes.resting (giveNotice_concludes playing (.closed uri)) fun _ => within_pure _
  | subscribe channel listener => exact .inl (lengthens_of_journal rfl)
  | unsubscribe name =>
      refine concludes_of_bides (Within.bind (Within.bind within_get fun world => ?_)
        fun _ => within_pure _)
      split
      · exact within_pure _
      · exact fun _ => lengthens_of_journal rfl
  | send server message => cases heralds
  | raw server data => cases heralds
  | stderr server text =>
      refine Concludes.resting (ensures_withServer (.inl here) fun server => ?_)
        fun _ => within_pure _
      exact concludes_of_bides (receiveError_within playing.speaking server text)
  | exit server code =>
      refine Concludes.resting (ensures_withServer (.inl here) fun server => ?_)
        fun _ => within_pure _
      rw [ensures_bind, ensures_modify]
      exact serverEnded_concludes playing paired (governed.of_view (view_modifyServer _ _ _)) server code
  | onExit server code =>
      refine Concludes.resting (ensures_withServer (.inl here) fun server => ?_)
        fun _ => within_pure _
      exact serverEnded_concludes playing paired governed server code
  | set server running change =>
      refine Concludes.resting (ensures_withServer (.inl here) fun server => ?_)
        fun _ => within_pure _
      exact .inl (lengthens_of_journal rfl)
  | setFactory change => exact .inl (lengthens_of_journal rfl)

end

/-- A session that is ended by the call itself counts as stopped when the call returns. -/
theorem turn_stops {law : View → Prop} [Upheld law] {world : World} (paused : Paused law world)
    (depth : Nat) {step : Step} (other : step.operation ≠ "start") {early late : List Entry}
    {ended : Nat} (split : (turn (performWith (nestedCalls depth)) world step).entries =
      early ++ .ending ended :: late) (undisturbed : Undisturbed (early.drop step.heralds)) :
    (turn (performWith (nestedCalls depth)) world step).after.session.phase = .stopped := by
  have playing := (nestedCalls_nest depth).playing
  have paired : Paired law (nestedCalls depth) (tower id depth) :=
    paired_tower (fun _ _ _ _ => rfl) depth
  -- what comes before the end is no call and no output, so the end is the call itself
  have begins {added : List Entry} (same : added = early.drop step.heralds ++ .ending ended :: late) :
      ¬ Biding added := fun biding => biding.disturbed (early.drop step.heralds) ended
    (same ▸ ⟨late, by simp⟩) undisturbed
  have heralds : step.heralds = 0 ∨ step.heralds = 1 := by
    cases step <;> simp [Step.heralds]
  rcases heralds with none | one
  · rcases performWith_concludes playing paired paused.toGoverned other none with
      ⟨added, grown, biding⟩ | stopped
    · refine (begins ?_ biding).elim
      rw [← turn_entries grown, split, none, List.drop_zero]
    · exact stopped
  · rcases performWith_hears playing one with same | ⟨server, data, ⟨added, grown, biding⟩ | stopped⟩
    · have nothing : (turn (performWith (nestedCalls depth)) world step).entries = [] :=
        turn_entries (by rw [List.append_nil]; exact congrArg (fun world => world.journal.entries) same)
      simp [nothing] at split
    · have heard : (turn (performWith (nestedCalls depth)) world step).entries =
          .arrived server data :: added := by
        refine turn_entries (grown.trans ?_)
        simp
      rw [heard] at split
      cases early with
      | nil => cases split
      | cons first early =>
          obtain ⟨-, same⟩ := List.cons.inj split
          refine (begins ?_ biding).elim
          rw [same, one, List.drop_succ_cons, List.drop_zero]
          rfl
    · exact stopped

/-! ## Servers that nobody ends -/

/-- Only the server of the session begins to end, and it is dismissed after that. -/
def Befits (before : List Entry) : Entry → Prop
  | .ending server => (standing before).server = some server
  | .killed server => .ending server ∈ before
  | .closed server => .ending server ∈ before
  | _ => True

def Befitting (view : View) : Prop := Obeys Befits view.entries

theorem Minor.befits {entry : Entry} (minor : Minor entry) (before : List Entry) :
    Befits before entry := by
  cases entry <;> trivial

theorem Handed.befits {server : Option Nat} {message : Json} {added : List Entry}
    (handed : Handed server message added) : ∀ entry ∈ added, ∀ before, Befits before entry := by
  cases handed with
  | unserved nobody => simp
  | ended number served => simp [Befits]
  | taken number data note served => simp [Befits]

theorem befits_departure (settings : Settings) {server : Nat} (graceful running : Bool)
    (note : Log.Record) {before : List Entry} (begun : .ending server ∈ before) :
    ∀ entry ∈ departure settings server graceful running note, Befits before entry := by
  intro entry member
  simp only [departure, List.mem_append, List.mem_cons, List.not_mem_nil, or_false] at member
  rcases member with (dismissed | rfl | rfl) | rfl
  · rcases mem_dismissal dismissed with ⟨_, rfl⟩ | rfl | ⟨rfl, -⟩ | rfl
    · trivial
    · trivial
    · exact begun
    · exact begun
  all_goals trivial

instance : Upheld Befitting where
  move {view view'} sane befitting move := by
    have freely {added : List Entry} (free : ∀ entry ∈ added, ∀ before, Befits before entry) :
        Obeys Befits (view.entries ++ added) := Obeys.idle befitting free
    have logging (notes : List Log.Record) :
        ∀ entry ∈ notes.map Entry.logged, ∀ before, Befits before entry :=
      fun entry noted => (minor_logged entry noted).befits
    cases move with
    | aside session added same idle minor => exact freely fun entry member => (minor entry member).befits
    | told message added other handed => exact freely handed.befits
    | refused server message served due => exact freely (by simp [Befits])
    | answered server message data answer served due => exact freely (by simp [Befits])
    | synced notice added ready handed => exact freely handed.befits
    | strayed notice earlier server added lawful sane' ready served since interrupted stopping
        inside lost => exact befitting
    | opened notes unready going lost =>
        exact freely (List.forall_mem_append.mpr ⟨logging notes, by simp [Befits]⟩)
    | begun server served going => exact Obeys.snoc befitting (sane.served.trans served)
    | shutting notes ready stopping => exact freely (logging notes)
    | left server earlier later graceful running note stopping since inside kept hasty =>
        refine Obeys.append befitting fun before entry after split => ?_
        have begun : .ending server ∈ view.entries ++ before := by simp [since]
        exact befits_departure view.settings graceful running note begun entry (by simp [split])
    | stopped notes stopping unready finished => exact freely (logging notes)
    | renewed root ready cause => exact freely (by simp [Befits])
    | adopted notes fresh free =>
        exact freely (List.forall_mem_append.mpr ⟨logging notes, by simp [Befits]⟩)
    | restarted root notes unready free =>
        refine freely (List.forall_mem_append.mpr ⟨?_, by simp [Befits]⟩)
        exact List.forall_mem_cons.mpr ⟨fun _ => trivial, logging notes⟩

/-- Nobody has begun to end the server, let alone killed or closed it. -/
structure Spared (server : Nat) (entries : List Entry) : Prop where
  unended : .ending server ∉ entries
  unkilled : .killed server ∉ entries
  unclosed : .closed server ∉ entries

section

variable {entries before later : List Entry} {server : Nat}

theorem Obeys.spared (befitting : Obeys Befits entries) (unended : .ending server ∉ entries) :
    Spared server entries := by
  have dismissed {entry : Entry} (ends : ∀ before, Befits before entry → .ending server ∈ before) :
      entry ∉ entries := by
    intro member
    obtain ⟨before, after, split⟩ := List.append_of_mem member
    have begun := ends before (befitting before entry after split)
    exact unended (split ▸ List.mem_append_left _ begun)
  exact ⟨unended, dismissed fun _ begun => begun, dismissed fun _ begun => begun⟩

theorem standing_server_append : (standing (entries ++ later)).server = (standing later).server ∨
    (standing (entries ++ later)).server = (standing entries).server ∧
      ∀ number, .serving number ∉ later := by
  induction later using List.reverseRecOn with
  | nil => exact .inr ⟨by rw [List.append_nil], by simp⟩
  | append_singleton later entry ih =>
      rw [← List.append_assoc, standing_snoc, standing_snoc]
      cases entry with
      | serving number => exact .inl rfl
      | _ =>
          refine ih.imp id fun ⟨same, unserved⟩ => ⟨same, fun number member => ?_⟩
          exact unserved number (by simpa using member)

/-- A server that has been followed by another is not the server of the session any more. -/
theorem Coherent.outlived {number : Nat}
    (coherent : Coherent (before ++ .serving (some number) :: later))
    (earlier : .serving (some server) ∈ before) :
    (standing (before ++ .serving (some number) :: later)).server ≠ some server := by
  have newer : server < number := coherent.lawful server earlier
  intro current
  rw [List.append_cons] at current coherent
  have again : .serving (some server) ∈ later := by
    rcases @standing_server_append (before ++ [.serving (some number)]) later with same | ⟨same, -⟩
    · exact serving_of_standing (same ▸ current)
    · rw [same, standing_snoc] at current
      obtain rfl : number = server := Option.some.inj current
      exact (lt_irrefl _ newer).elim
  obtain ⟨between, rest, rfl⟩ := List.append_of_mem again
  rw [← List.append_assoc] at coherent
  have older : number < server := coherent.lawful number (by simp)
  omega

theorem Coherent.spared {number : Nat}
    (coherent : Coherent (before ++ .serving (some number) :: later))
    (befitting : Obeys Befits (before ++ .serving (some number) :: later))
    (earlier : .serving (some server) ∈ before) (unended : .ending server ∉ before) :
    Spared server (before ++ .serving (some number) :: later) := by
  refine befitting.spared fun member => ?_
  have since : .ending server ∈ .serving (some number) :: later :=
    (List.mem_append.mp member).resolve_left unended
  obtain ⟨between, rest, rfl⟩ := List.append_of_mem (List.mem_of_ne_of_mem (by simp) since)
  rw [← List.cons_append, ← List.append_assoc] at coherent befitting
  exact coherent.before.outlived earlier (befitting _ _ rest rfl)

/-- An end is under way unless the session has been left since. -/
theorem underway_of_unleft (unleft : .serving none ∉ later) :
    underway (entries ++ .ending server :: later) = true := by
  induction later using List.reverseRecOn with
  | nil => exact underway_of_ending (by simp)
  | append_singleton later entry ih =>
      have earlier := ih fun member => unleft (List.mem_append_left _ member)
      rw [← List.cons_append, ← List.append_assoc, underway, List.foldl_append]
      change (border? entry).getD (underway (entries ++ .ending server :: later)) = true
      cases entry with
      | serving number =>
          cases number with
          | none => exact (unleft (by simp)).elim
          | some number => exact earlier
      | _ => first | exact earlier | rfl

/-- Between two turns nobody has begun to end the server of the session. -/
theorem Paused.spared {world : World} (paused : Paused Befitting world)
    (coherent : Coherent world.journal.entries) (current : world.session.server = some server) :
    Spared server world.journal.entries := by
  refine Obeys.spared paused.lawful fun member => ?_
  obtain ⟨before, after, split⟩ := List.append_of_mem member
  have served : (standing before).server = some server := paused.lawful before _ after split
  have stands : (standing world.journal.entries).server = some server :=
    paused.sane.served.trans current
  have unleft : .serving none ∉ after := by
    intro left
    obtain ⟨between, rest, rfl⟩ := List.append_of_mem left
    have parted : world.journal.entries =
        (before ++ .ending server :: between ++ [.serving none]) ++ rest := by simp [split]
    rw [parted] at stands coherent
    have again : .serving (some server) ∈ rest := by
      rcases @standing_server_append (before ++ .ending server :: between ++ [.serving none]) rest
        with same | ⟨same, -⟩
      · exact serving_of_standing (same ▸ stands)
      · rw [same, standing_snoc] at stands
        cases stands
    obtain ⟨middle, last, rfl⟩ := List.append_of_mem again
    rw [← List.append_assoc] at coherent
    have newer : server < server :=
      coherent.lawful server (by simp [serving_of_standing served])
    exact lt_irrefl _ newer
  have ends := paused.sane.underway (by rw [view_entries, split]; exact underway_of_unleft unleft)
  rw [view_session, paused.going] at ends
  cases ends

end

/-! ## Starts -/

section

variable {nested nested' : Nested} {world : World}

theorem turn_stop_after (nested : Nested) (world : World) :
    (turn (performWith nested) world .stop).after = Act.after (stop nested none) world := by
  change (result (stop nested none >>= fun _ => pure Json.null) world).2 = _
  rw [result_bind, Act.after]
  rcases result (stop nested none) world with ⟨_ | _, left⟩ <;> rfl

theorem result_of_started {command : Text} {arguments : List Text} {root : Option Text}
    {outcome : Json}
    (started : (turn (performWith nested) world (.start command arguments root)).outcome =
      .ok outcome) :
    ∃ value, result (start nested command arguments root) world =
      (.ok value, (turn (performWith nested) world (.start command arguments root)).after) := by
  have performs : performWith nested (.start command arguments root) =
      start nested command arguments root >>= fun begun => pure (Json.bool begun) := rfl
  change (result (performWith nested (.start command arguments root)) world).1 = .ok outcome
    at started
  have leaves : (turn (performWith nested) world (.start command arguments root)).after =
      (result (performWith nested (.start command arguments root)) world).2 := rfl
  rw [leaves]
  rw [performs, result_bind] at started ⊢
  rcases began : result (start nested command arguments root) world with ⟨fault | value, left⟩
  · rw [began] at started
    cases started
  · exact ⟨value, rfl⟩

theorem embark_takes (nested : Nested) (unready : world.session.ready = false) (root : Text)
    (argv : List Text) : Ensures (embark nested root argv) world fun _ after =>
      ∃ notes : List Log.Record, ∃ number, after.journal.entries =
        world.journal.entries ++ .dropped :: notes.map .logged ++ [.serving (some number)] := by
  rw [embark, ensures_bind, Ensures, resetSession_unready nested unready]
  refine (adopt_views argv (world.renewing root)).mono ?_
  rintro _ after ⟨-, notes, view⟩
  refine ⟨notes, world.servers.length, (congrArg View.entries view).trans ?_⟩
  simp [World.renewing]

variable {law : View → Prop} [Upheld law] (playing : Playing Bracketed nested)
  (paired : Paired law nested nested')

include playing paired

/-- A start that succeeds takes a server of its own, whatever it has been left with. -/
theorem start_takes (paused : Paused law world) (command : Text) (arguments : List Text)
    (root : Option Text) {server : Nat}
    (heir : (Act.after (stop nested none) world).session.server = some server) :
    Ensures (start nested command arguments root) world fun ending after =>
      ∀ value, ending = .ok value → ∃ between number rest,
        after.journal.entries = (Act.after (stop nested none) world).journal.entries ++
          between ++ .serving (some number) :: rest ∧ ∀ other, .ending other ∉ between := by
  rw [start_eq_embark, ensures_bind]
  -- there was something to stop, so the session is unready when the stop returns
  have stops : Ensures (stop nested none) world fun _ left =>
      left = Act.after (stop nested none) world ∧ left.session.ready = false := by
    refine ⟨rfl, ?_⟩
    rcases (stop_mirrors paired paused.toGoverned none).2 with ⟨same, idle⟩ | ⟨left, -⟩
    · have same : Act.after (stop nested none) world = world := same
      rw [same] at heir
      simp [heir, paused.going] at idle
    · exact left.unready
  refine stops.mono ?_
  rintro ending _ ⟨rfl, unready⟩
  cases ending with
  | error fault => rintro _ ⟨⟩
  | ok _ =>
      dsimp only
      rw [ensures_bind]
      refine (awaitEnding_stays _).mono ?_
      rintro ending _ rfl
      cases ending with
      | error fault => rintro _ ⟨⟩
      | ok _ =>
          dsimp only
          rw [ensures_bind]
          refine (embark_takes nested unready (root.getD []) (command :: arguments)).mono ?_
          rintro ending adopted ⟨notes, number, taken⟩
          cases ending with
          | error fault => rintro _ ⟨⟩
          | ok server =>
              refine (playing.keeping.bringUp command arguments root server adopted).mono ?_
              rintro _ after ⟨rest, grown, -⟩ _ _
              refine ⟨.dropped :: notes.map .logged, number, rest, ?_, by simp⟩
              rw [grown, taken, List.append_assoc, List.append_assoc, List.append_assoc]
              rfl

end

/-! ## Runs -/

theorem Reached.befitting {world : World} (reached : Reached world) : Paused Befitting world :=
  reached.paused fun _ => obeys_nil

/-- The session that was to be ended is not gone on with, and the server it has was not ended. -/
theorem turn_leaves (depth : Nat) {world : World} (reached : Reached world) {step : Step}
    {early late : List Entry} {ended : Nat}
    (split : (turn (performWith (nestedCalls depth)) world step).entries =
      early ++ .ending ended :: late) :
    let after := (turn (performWith (nestedCalls depth)) world step).after
    after.session.server = (standing late).server ∧
      ∀ server, after.session.server = some server → Spared server after.journal.entries := by
  intro after
  obtain ⟨sound, grown⟩ := turn_keeps (performWith_keeps depth step) reached.sound
  have paused : Paused Befitting after :=
    (turn_performed reached.befitting step depth).paused reached.befitting.going
  have spared (server : Nat) (current : after.session.server = some server) :
      Spared server after.journal.entries := paused.spared sound.coherent current
  refine ⟨?_, spared⟩
  have parted : after.journal.entries =
      (world.journal.entries ++ early ++ [.ending ended]) ++ late := by
    rw [grown, split]
    simp
  have stands := sound.server
  rw [parted] at stands
  rcases @standing_server_append (world.journal.entries ++ early ++ [.ending ended]) late with
    same | ⟨same, -⟩
  · exact stands.symm.trans same
  · -- Nothing has been taken or left since, so the server that was to be ended is still there.
    have befits : Befits (world.journal.entries ++ early) (.ending ended) := by
      refine paused.lawful _ _ late ?_
      rw [view_entries, parted]
      simp
    rw [same, standing_snoc] at stands
    have current : after.session.server = some ended := stands.symm.trans befits
    exact ((spared ended current).unended (by rw [parted]; simp)).elim

/-- A server that listeners have started meanwhile is neither kept nor ended by a start. -/
theorem turn_abandons (depth : Nat) {world : World} (reached : Reached world) (command : Text)
    (arguments : List Text) (root : Option Text) {server : Nat}
    (heir : (turn (performWith (nestedCalls depth)) world .stop).after.session.server = some server)
    {result : Json} (started : (turn (performWith (nestedCalls depth)) world
      (.start command arguments root)).outcome = .ok result) :
    let after := (turn (performWith (nestedCalls depth)) world (.start command arguments root)).after
    after.session.server ≠ some server ∧ Spared server after.journal.entries := by
  intro after
  have sound := (turn_keeps (performWith_keeps depth (.start command arguments root))
    reached.sound).1
  have paused : Paused Befitting after :=
    (turn_performed reached.befitting _ depth).paused reached.befitting.going
  have left_sound := (turn_keeps (performWith_keeps depth .stop) reached.sound).1
  have left_paused : Paused Befitting (turn (performWith (nestedCalls depth)) world .stop).after :=
    (turn_performed reached.befitting .stop depth).paused reached.befitting.going
  have unended := (left_paused.spared left_sound.coherent heir).unended
  have served := serving_of_standing (left_sound.server.trans heir)
  rw [turn_stop_after] at heir unended served
  have paired : Paired Befitting (nestedCalls depth) (tower id depth) :=
    paired_tower (fun _ _ _ _ => rfl) depth
  have takes := start_takes (nestedCalls_nest depth).playing.bracketed paired reached.befitting
    command arguments root heir
  obtain ⟨value, starts⟩ := result_of_started started
  rw [Ensures, starts] at takes
  obtain ⟨between, number, rest, grown, quiet⟩ := takes value rfl
  -- the server of the listeners was taken before that of the start
  have earlier : .serving (some server) ∈
      (Act.after (stop (nestedCalls depth) none) world).journal.entries ++ between :=
    List.mem_append_left _ served
  have coherent : Coherent after.journal.entries := sound.coherent
  have befitting : Obeys Befits after.journal.entries := paused.lawful
  have stands : (standing after.journal.entries).server = after.session.server := sound.server
  rw [← stands]
  rw [show after.journal.entries = _ from grown] at coherent befitting ⊢
  exact ⟨coherent.outlived earlier, coherent.spared befitting earlier
    (by simpa using ⟨unended, quiet server⟩)⟩

/--
However listeners act when a session ends, be it stopped, left by its server or given up: the call
that ends it itself, and not by a callback or by output that arrives meanwhile, leaves it marked as
stopped, with the server that they took last, if any.  A start that ends the session takes another
server instead.  In either case nobody ends the server of the listeners, and its process is neither
killed nor closed.
-/
theorem end_overrules_listeners (depth : Nat) {world : World} (reached : Reached world) :
    let call := turn (performWith (nestedCalls depth)) world
    (∀ (step : Step) early ended late, step.operation ≠ "start" →
      (call step).entries = early ++ .ending ended :: late → Undisturbed (early.drop step.heralds) →
      (call step).after.session.phase = .stopped ∧
      (call step).after.session.server = (standing late).server ∧
      ∀ server, (call step).after.session.server = some server →
        Spared server (call step).after.journal.entries) ∧
    ∀ command arguments root server result,
      (call .stop).after.session.server = some server →
      (call (.start command arguments root)).outcome = .ok result →
      (call (.start command arguments root)).after.session.server ≠ some server ∧
        Spared server (call (.start command arguments root)).after.journal.entries := by
  intro call
  constructor
  · intro step early ended late other split undisturbed
    exact ⟨turn_stops reached.befitting depth other split undisturbed,
      turn_leaves depth reached split⟩
  · intro command arguments root server result heir started
    exact turn_abandons depth reached command arguments root heir started

/-- A session is open, and a listener starts the next one when it is told of its end. -/
def succession : List Step :=
  [.subscribe .ready
      { kind := "ready", name := "R", script := [.start "srv" [] none], guard := some (.bool false) },
    .start "srv" [] none, .send none (.object [("id", .nat 1), ("result", .object [])])]

def succeeding : World := leftBy {} (turns (performWith (nestedCalls 4)) {} succession)

/-- A step that was begun here returned with this result. -/
def returns (operation : Text) (result : Bool) : Entry → Bool
  | .did other (.bool value) => other = operation && value = result
  | _ => false

/-- The start succeeds, and yet its session counts as stopped or is not gone on with. -/
theorem succession_fails :
    let stopped := turn (performWith (nestedCalls 4)) succeeding .stop
    let restarted := turn (performWith (nestedCalls 4)) succeeding (.start "srv" [] none)
    succeeding.session.phase = .ready ∧
      (stopped.entries.any (returns "start" true) = true ∧ stopped.after.session.phase = .stopped ∧
        stopped.after.session.server = some 1 ∧ stopped.after.isRunning 1 = true) ∧
      restarted.entries.any (returns "start" true) = true ∧
        restarted.after.session.server = some 2 ∧ restarted.after.isRunning 1 = true := by
  decide +kernel

theorem exists_ending {entries : List Entry}
    (begins : entries.head?.bind border? = some true) :
    ∃ ended late, entries = .ending ended :: late := by
  cases entries with
  | nil => cases begins
  | cons entry late =>
      cases entry with
      | ending ended => exact ⟨ended, late, rfl⟩
      | serving server => cases server <;> cases begins
      | _ => cases begins

theorem end_overrules_successor :
    let stopped := turn (performWith (nestedCalls 4)) succeeding .stop
    let restarted := turn (performWith (nestedCalls 4)) succeeding (.start "srv" [] none)
    (stopped.after.session.phase = .stopped ∧ stopped.after.session.server = some 1 ∧
      Spared 1 stopped.after.journal.entries) ∧
      restarted.after.session.server ≠ some 1 ∧ Spared 1 restarted.after.journal.entries := by
  intro stopped restarted
  have reached : Reached succeeding := ⟨{}, {}, 4, succession, rfl⟩
  have heir : stopped.after.session.server = some 1 := by decide +kernel
  obtain ⟨ended, late, split⟩ : ∃ ended late, stopped.entries = .ending ended :: late :=
    exists_ending (by decide +kernel)
  obtain ⟨result, started⟩ : ∃ result, restarted.outcome = .ok result := by
    have succeeds : restarted.outcome.isOk = true := by decide +kernel
    cases outcome : restarted.outcome with
    | ok result => exact ⟨result, rfl⟩
    | error fault =>
        rw [outcome] at succeeds
        cases succeeds
  obtain ⟨ends, starts⟩ := end_overrules_listeners 4 reached
  obtain ⟨phase, -, spared⟩ := ends .stop [] ended late (by decide) split ⟨rfl, by simp⟩
  exact ⟨⟨phase, heir, spared 1 heir⟩, starts "srv" [] none 1 result heir started⟩

end Client

end LanguageSession
