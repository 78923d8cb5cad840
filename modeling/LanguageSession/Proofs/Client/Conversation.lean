import Mathlib
import LanguageSession.Proofs.Client.Lifecycle
import LanguageSession.Proofs.Client.Notes

/-!
# What a passive session tells its servers

Only the server of the session is told anything, and only while it runs and the session is
not to be ended.  What it was told so far shows in the state of the session: whether it is
ready, and which id comes next.
-/

namespace LanguageSession

namespace Client

open Act

/-! ## Silence -/

/-- Entries that hand no message to a process. -/
def Hush : Entry → Prop
  | .wrote _ _ _ => False
  | .writeRefused _ _ => False
  | _ => True

theorem hush_tame : Tame Hush where
  plain := by rintro (_ | _) plain <;> trivial
  dropped := trivial
  serving _ := trivial
  ending _ := trivial

theorem Hush.handing {entry : Entry} (hush : Hush entry) (server : Nat) :
    handing server entry = none := by
  cases entry <;> first | rfl | cases hush

theorem Ends.hush {server : Nat} {entry : Entry} (ends : Ends server entry) : Hush entry := by
  rcases ends with rfl | rfl <;> trivial

def World.told (world : World) (server : Nat) : List (Json × Bool) :=
  handed server world.journal.entries

structure Hushed (world world' : World) : Prop where
  told : ∀ server, world'.told server = world.told server
  count : world'.servers.length = world.servers.length

section

variable {world world' : World}

theorem told_noting (world : World) (entry : Entry) (server : Nat) :
    (world.noting entry).told server = world.told server ++ (handing server entry).toList := by
  simp only [World.told, noting_entries, handed_append]
  cases found : handing server entry with
  | none => simp [handed, found]
  | some item => simp [handed, found]

theorem hushed_noting {entry : Entry} (hush : Hush entry) (world : World) :
    Hushed world (world.noting entry) := by
  refine ⟨fun server => ?_, rfl⟩
  rw [told_noting, hush.handing, Option.toList_none, List.append_nil]

instance : Tolerant Hushed where
  refl _ := ⟨fun _ => rfl, rfl⟩
  trans _ _ _ before after :=
    ⟨fun server => (after.told server).trans (before.told server), after.count.trans before.count⟩
  noting world entry neutral := hushed_noting (hush_tame.plain entry neutral.plain) world
  modifying world server change _ := ⟨fun _ => rfl, by simp [World.modifyServer]⟩

theorem Adds.told (adds : Adds Hush world world') (server : Nat) :
    world'.told server = world.told server := by
  obtain ⟨added, grown, hush⟩ := adds
  have nothing : handed server added = [] := by
    rw [handed, List.filterMap_eq_nil_iff]
    exact fun entry member => (hush entry member).handing server
  rw [World.told, grown, handed_append, nothing, List.append_nil, World.told]

theorem Tamed.hushed (tamed : Tamed Hush world world') : Hushed world world' :=
  ⟨tamed.adds.told, tamed.ebbs.count⟩

theorem Left.hushed {allowed : Entry → Prop} (left : Left allowed world world')
    (hush : ∀ entry, allowed entry → Hush entry) : Hushed world world' :=
  (left.noted hush_tame hush).hushed

/-! ## Worlds with manners -/

/-- Every process is told what the life of a session allows. -/
structure Mannered (world : World) : Prop where
  follows : ∀ server, FollowsLifecycle (world.told server)
  unmade : ∀ server, world.servers.length ≤ server → world.told server = []

/-- Unless the session is to be ended, its server has been told this much, if it runs. -/
def Heard (ready : Bool) (next : Nat) (world : World) : Prop :=
  ∀ server, world.session.server = some server → world.isRunning server = true →
    world.session.abortRequested = false → Speaks ready next (world.told server)

def Present (world : World) : Prop :=
  ∀ server, world.session.server = some server → server < world.servers.length

structure Proper (world : World) : Prop where
  mannered : Mannered world
  made : Present world
  heard : Heard world.session.ready world.session.nextId world

structure Civil (world : World) : Prop where
  passive : Passive world
  proper : Proper world

variable {ready : Bool} {next : Nat}

theorem Mannered.hushed (mannered : Mannered world) (hushed : Hushed world world') : Mannered world' where
  follows server := by
    rw [hushed.told]
    exact mannered.follows server
  unmade server beyond := by
    rw [hushed.told]
    exact mannered.unmade server (hushed.count ▸ beyond)

theorem Heard.hushed (heard : Heard ready next world) (hushed : Hushed world world')
    (ebbs : Ebbs world world') (server : world'.session.server = world.session.server)
    (aborted : world'.session.abortRequested = false → world.session.abortRequested = false) :
    Heard ready next world' := by
  intro current served runs goes_on
  rw [hushed.told]
  exact heard current (server ▸ served) (ebbs.running current runs) (aborted goes_on)

theorem Present.hushed (made : Present world) (hushed : Hushed world world')
    (server : world'.session.server = world.session.server) : Present world' := by
  intro current served
  rw [hushed.count]
  exact made current (server ▸ served)

theorem Proper.left {allowed : Entry → Prop} (proper : Proper world)
    (left : Left allowed world world') (hush : ∀ entry, allowed entry → Hush entry) :
    Proper world' := by
  have hushed := left.hushed hush
  have same := left.session
  refine ⟨proper.mannered.hushed hushed, proper.made.hushed hushed (by rw [same]), ?_⟩
  rw [same]
  exact proper.heard.hushed hushed left.ebbs (by rw [same]) (by rw [same]; exact id)

theorem Civil.left (civil : Civil world) (leaves : Leaves world world') : Civil world' :=
  ⟨(leaves civil.passive).passive, civil.proper.left (leaves civil.passive) fun _ => False.elim⟩

theorem Proper.ebbing (proper : Proper world) (journal : world'.journal = world.journal)
    (session : world'.session = world.session) (ebbs : Ebbs world world') : Proper world' := by
  have hushed : Hushed world world' := ⟨fun _ => by rw [World.told, journal]; rfl, ebbs.count⟩
  refine ⟨proper.mannered.hushed hushed, proper.made.hushed hushed (by rw [session]), ?_⟩
  rw [session]
  exact proper.heard.hushed hushed ebbs (by rw [session]) (by rw [session]; exact id)

theorem Civil.ensures {α : Type} {action : Act World α} (civil : Civil world)
    (leaves : Within Leaves action) : Ensures action world fun _ => Civil :=
  (leaves world).mono fun _ _ => civil.left

theorem Proper.becoming (proper : Proper world) {session : Session}
    (server : session.server = world.session.server) (ready : session.ready = world.session.ready)
    (next : session.nextId = world.session.nextId)
    (aborted : session.abortRequested = false → world.session.abortRequested = false) :
    Proper { world with session := session } := by
  have hushed : Hushed world { world with session := session } := ⟨fun _ => rfl, rfl⟩
  refine ⟨proper.mannered.hushed hushed, proper.made.hushed hushed server, ?_⟩
  change Heard session.ready session.nextId _
  rw [ready, next]
  exact proper.heard.hushed hushed (ebbs_of_servers rfl) server aborted

theorem Ended.proper (ended : Ended world) (mannered : Mannered world) : Proper world := by
  have vacant {server : Nat} : world.session.server ≠ some server := by simp [ended.server]
  exact ⟨mannered, fun _ served => (vacant served).elim, fun _ served => (vacant served).elim⟩

/-! ## One message -/

/-- What has become of a message that the session was to write. -/
inductive Delivered (session : Session) (message : Json) (world world' : World) : Prop
  | unheard (same : world'.session = session) (hushed : Hushed world world')
      (ended : ∀ server, session.server = some server → world'.isRunning server = false)
  | heard {server : Nat} (accepted : Bool) (served : session.server = some server)
      (runs : world.isRunning server = true)
      (same : world'.session =
        { session with abortRequested := session.abortRequested || !accepted })
      (told : ∀ other, world'.told other =
        world.told other ++ if other = server then [(message, accepted)] else [])
      (count : world'.servers.length = world.servers.length)

variable {session : Session} {message : Json}

theorem Delivered.aborting (delivered : Delivered session message world world') :
    ∃ aborted, world'.session = { session with abortRequested := aborted } := by
  cases delivered with
  | unheard same => exact ⟨session.abortRequested, same⟩
  | heard _ _ _ same => exact ⟨_, same⟩

theorem Delivered.since {start : World} (delivered : Delivered session message start world')
    (hushed : Hushed world start) (servers : start.servers = world.servers) :
    Delivered session message world world' := by
  cases delivered with
  | unheard same later ended => exact .unheard same (trans_of Hushed hushed later) ended
  | heard accepted served runs same told count =>
      refine .heard accepted served ?_ same (fun other => ?_) (count.trans hushed.count)
      · simpa [World.isRunning, World.server?, servers] using runs
      · rw [told, hushed.told]

theorem Delivered.count (delivered : Delivered session message world world') :
    world'.servers.length = world.servers.length := by
  cases delivered with
  | unheard _ hushed => exact hushed.count
  | heard _ _ _ _ _ count => exact count

theorem Delivered.made (delivered : Delivered session message world world')
    (made : ∀ server, session.server = some server → server < world.servers.length) :
    Present world' := by
  obtain ⟨aborted, same⟩ := delivered.aborting
  intro server served
  rw [same] at served
  rw [delivered.count]
  exact made server served

theorem Mannered.delivered (mannered : Mannered world)
    (made : ∀ server, session.server = some server → server < world.servers.length)
    (fits : ∀ server, session.server = some server → world.isRunning server = true →
      Speaks ready next (world.told server ++ [(message, true)]))
    (delivered : Delivered session message world world') :
    Mannered world' ∧ Heard ready next world' := by
  cases delivered with
  | unheard same hushed ended =>
      refine ⟨mannered.hushed hushed, fun server served runs => ?_⟩
      rw [same] at served
      simp [ended server served] at runs
  | @heard server accepted served runs same told count =>
      have speaks := fits server served runs
      refine ⟨⟨fun other => ?_, fun other beyond => ?_⟩, fun other served' _ goes_on => ?_⟩
      · rw [told]
        split
        · next here =>
          subst here
          exact speaks.follows accepted
        · rw [List.append_nil]
          exact mannered.follows other
      · rw [count] at beyond
        have apart : other ≠ server := ((made server served).trans_le beyond).ne'
        rw [told, if_neg apart, List.append_nil]
        exact mannered.unmade other beyond
      · rw [same] at served' goes_on
        obtain rfl : server = other := Option.some.inj (served.symm.trans served')
        obtain rfl : accepted = true := by
          simp only [Bool.or_eq_false_iff, Bool.not_eq_false'] at goes_on
          exact goes_on.2
        rw [told, if_pos rfl]
        exact speaks

theorem Proper.delivered (proper : Proper world) (server : session.server = world.session.server)
    (fits : ∀ server, session.server = some server → world.isRunning server = true →
      Speaks session.ready session.nextId (world.told server ++ [(message, true)]))
    (delivered : Delivered session message world world') : Proper world' := by
  have made : ∀ current, session.server = some current → current < world.servers.length :=
    fun current served => proper.made current (server ▸ served)
  obtain ⟨mannered, heard⟩ := proper.mannered.delivered made fits delivered
  obtain ⟨aborted, same⟩ := delivered.aborting
  exact ⟨mannered, delivered.made made, by rw [same]; exact heard⟩

end

section

variable {nested : Nested} {world : World}

theorem deliver_tells {server : Nat} (message : Json) (data : Bytes) (passive : Passive world)
    (runs : world.isRunning server = true) :
    Ensures (deliver nested server message data) world fun ending world' =>
      ∃ failure : Option Text, ending = .ok failure ∧ world'.session = world.session ∧
        (∀ other, world'.told other =
          world.told other ++ if other = server then [(message, failure.isNone)] else []) ∧
        world'.servers.length = world.servers.length := by
  simp only [deliver, ensures_bind, ensures_get]
  split
  · next unknown =>
    simp [World.isRunning, unknown] at runs
  · next process known =>
    have silent := passive.servers process (List.mem_of_getElem? known)
    simp only [ensures_bind, ensures_modify]
    split
    · next reason refuses =>
      simp only [ensures_bind, ensures_write, add_eq_noting, ensures_pure]
      refine ⟨some reason, rfl, rfl, fun other => ?_, by simp [World.modifyServer]⟩
      rw [told_noting]
      simp only [handing, eq_comm, Option.isNone_some]
      split <;> rfl
    · simp only [ensures_bind, ensures_write, add_eq_noting, ensures_modify, silent message,
        List.forM_eq_forM, List.forM_nil, ensures_pure]
      refine ⟨none, rfl, rfl, fun other => ?_, by simp [World.modifyServer]⟩
      change (World.noting _ _).told other = _
      rw [told_noting]
      simp only [handing, eq_comm, Option.isNone_none]
      split <;> rfl

theorem writeMessage_delivers (message : Json) (data : Bytes) (passive : Passive world) :
    Ensures (writeMessage nested message data) world fun _ world' =>
      Delivered world.session message world world' := by
  simp only [writeMessage, ensures_bind, ensures_getSession]
  cases served : world.session.server with
  | none => exact .unheard rfl (refl_of Hushed world) (by simp [served])
  | some server =>
      have moves : Leaves world (world.looking server) := looking_within world server
      have left := moves passive
      have hushed := left.hushed fun _ => False.elim
      simp only [ensures_bind, ensures_look]
      split
      · next runs =>
        rw [ensures_bind]
        refine ((deliver_tells message data left.passive runs).and
          (deliver_passive server message data _ left.passive)).mono ?_
        rintro _ delivered ⟨⟨failure, rfl, same, told, count⟩, -, passive, -⟩
        have runs := left.ebbs.running server runs
        have told (other : Nat) : delivered.told other =
            world.told other ++ if other = server then [(message, failure.isNone)] else [] := by
          rw [told, hushed.told]
        cases failure with
        | none =>
            have recorded : Ensures (record (Log.messageOut message data.length)) delivered
                fun _ => Leaves delivered := within_record _ delivered
            refine recorded.mono fun _ world' later => ?_
            have quiet := (later passive).hushed fun _ => False.elim
            refine .heard true served runs ?_ (fun other => ?_) ?_
            · rw [(later passive).session, same]
              simp
            · rw [quiet.told, told]
              rfl
            · rw [quiet.count, count, hushed.count]
        | some reason =>
            dsimp only
            rw [ensures_bind]
            refine (Succeeds.left (emitLog_succeeds _) (emitLog_leaves _) passive).mono ?_
            rintro _ logged ⟨⟨_, rfl⟩, later⟩
            have quiet := later.hushed fun _ => False.elim
            simp only [requestAbort, ensures_modifySession]
            -- a message that was not taken asks for the end of the session
            refine .heard false served runs ?_ (fun other => ?_) ?_
            · simp [later.session, same]
            · exact (quiet.told other).trans (told other)
            · exact quiet.count.trans (count.trans hushed.count)
      · next ended =>
        refine .unheard rfl hushed fun other current => ?_
        obtain rfl := Option.some.inj (served.symm.trans current)
        exact Bool.eq_false_iff.mpr ended

theorem sendNotification_delivers (method : Text) (params : Json) (passive : Passive world) :
    Ensures (sendNotification nested method params) world fun ending world' =>
      match ending with
      | .ok (.ok _) =>
          Delivered world.session (Message.notification (.string method) params) world world'
      | .ok (.error error) => world' = world ∧
          Frame.encode (Message.notification (.string method) params) = .error error
      | .error _ => False := by
  unfold sendNotification
  dsimp only
  split
  · next error encoded => exact ⟨rfl, encoded⟩
  · rw [ensures_bind]
    refine ((writeMessage_delivers _ _ passive).and (writeMessage_passive _ _ _ passive)).mono ?_
    rintro _ written ⟨delivered, ⟨_, rfl⟩, -⟩
    exact delivered

theorem sendRequest_delivers (method : Text) (params : Json) (handler : Option Handler)
    (passive : Passive world) :
    Ensures (sendRequest nested method params handler) world fun ending world' =>
      match ending with
      | .ok (.ok _) => Delivered (promised world.session handler)
          (Message.request (.nat world.session.nextId) (.string method) params) world world'
      | .ok (.error error) => world' = world ∧ Frame.encode
          (Message.request (.nat world.session.nextId) (.string method) params) = .error error
      | .error _ => False := by
  -- the handler is registered before the write, and that is no message
  have written {data : Bytes} {start : World} (passive : Passive start)
      (same : start.session = promised world.session handler) (hushed : Hushed world start)
      (servers : start.servers = world.servers) :
      Ensures (writeMessage nested (Message.request (.nat world.session.nextId) (.string method)
        params) data) start fun ending world' => (∃ value, ending = .ok value) ∧
          Delivered (promised world.session handler)
            (Message.request (.nat world.session.nextId) (.string method) params) world world' := by
    refine ((writeMessage_delivers _ _ passive).and (writeMessage_passive _ _ _ passive)).mono ?_
    rintro _ world' ⟨delivered, ends, -⟩
    exact ⟨ends, same ▸ delivered.since hushed servers⟩
  simp only [sendRequest, ensures_bind, ensures_getSession]
  split
  · next error encoded => exact ⟨rfl, encoded⟩
  · simp only [ensures_bind, ensures_modifySession]
    have kept (session : Session) : Hushed world { world with session := session } :=
      ⟨fun _ => rfl, rfl⟩
    cases handler with
    | none =>
        simp only [ensures_bind]
        refine Ensures.mono (written ?passive ?same ?hushed ?servers) ?delivered
        case passive => exact passive.kept
        case same => rfl
        case hushed => exact kept _
        case servers => rfl
        case delivered =>
          rintro _ world' ⟨⟨_, rfl⟩, delivered⟩
          exact delivered
    | some handler =>
        simp only [ensures_bind, ensures_await]
        refine Ensures.mono (written ?passive ?same ?hushed ?servers) ?delivered
        case passive =>
          cases handler <;> exact passive.kept
        case same => cases handler <;> rfl
        case hushed =>
          have awaits (who id : Nat) (server : Option Nat) : Hush (.awaiting who id server) := trivial
          cases handler with
          | callback who => exact trans_of Hushed (kept _) (hushed_noting (awaits who _ _) _)
          | handshake => exact kept _
          | mailbox slot => exact kept _
        case servers => cases handler <;> rfl
        case delivered =>
          rintro _ world' ⟨⟨_, rfl⟩, delivered⟩
          exact delivered

/-! ## Stopping -/

/-- The last two messages of a life. -/
theorem Mannered.parted {session : Session} {id : Nat} {world' last : World}
    (mannered : Mannered world)
    (made : ∀ server, session.server = some server → server < world.servers.length)
    (heard : ∀ server, session.server = some server → world.isRunning server = true →
      Speaks true id (world.told server))
    (first : Delivered session (farewell id) world world')
    (second : last = world' ∨ Delivered world'.session parting world' last) : Mannered last := by
  cases first with
  | unheard same hushed ended =>
      -- whoever did not hear the first message does not run, and hears no second
      have kept := mannered.hushed hushed
      rcases second with rfl | second
      · exact kept
      · cases second with
        | unheard _ later => exact kept.hushed later
        | heard _ served runs =>
            rw [same] at served
            simp [ended _ served] at runs
  | @heard server accepted served runs same told count =>
      have speaks := heard server served runs
      have others {other : Nat} (apart : other ≠ server) : world'.told other = world.told other := by
        rw [told, if_neg apart, List.append_nil]
      have here : world'.told server = world.told server ++ [(farewell id, accepted)] := by
        rw [told, if_pos rfl]
      have beyond {other : Nat} (unmade : world.servers.length ≤ other) : other ≠ server :=
        ((made server served).trans_le unmade).ne'
      have kept : Mannered world' := by
        refine ⟨fun other => ?_, fun other unmade => ?_⟩
        · by_cases same : other = server
          · rw [same, here]
            exact speaks.follows_farewell accepted
          · rw [others same]
            exact mannered.follows other
        · rw [count] at unmade
          rw [others (beyond unmade)]
          exact mannered.unmade other unmade
      rcases second with rfl | second
      · exact kept
      · cases second with
        | unheard _ later => exact kept.hushed later
        | @heard _ ended current _ _ told' count' =>
            rw [same] at current
            obtain rfl := Option.some.inj (served.symm.trans current)
            refine ⟨fun other => ?_, fun other unmade => ?_⟩
            · rw [told']
              split
              · next same =>
                rw [same, here, List.append_assoc]
                exact speaks.follows_parting accepted ended
              · rw [List.append_nil]
                exact kept.follows other
            · rw [count', count] at unmade
              rw [told', if_neg (beyond unmade), List.append_nil]
              exact kept.unmade other (count ▸ unmade)

theorem askToEnd_mannered {server : Nat} (passive : Passive world) (mannered : Mannered world)
    (made : Present world) (heard : world.session.ready = true → Heard true world.session.nextId world) :
    Ensures (askToEnd nested server) world fun _ => Mannered := by
  unfold askToEnd
  rw [ensures_bind]
  simp only [ensures_getSession]
  split
  · next ready =>
    have moves : Leaves world (world.looking server) := looking_within world server
    have left := moves passive
    have hushed := left.hushed fun _ => False.elim
    simp only [ensures_bind, ensures_look]
    split
    · next asks =>
      simp only [Bool.and_eq_true, Bool.not_eq_true'] at asks
      rw [ensures_bind]
      refine ((setPhase_passive .shuttingDown left.passive).and
        (ensures_noted (setPhase_notes hush_tame .shuttingDown _) left.passive)).mono ?_
      rintro _ closing ⟨⟨rfl, passive, same⟩, tamed⟩
      have same : closing.session = { world.session with phase := .shuttingDown } := same
      have mannered := (mannered.hushed hushed).hushed tamed.hushed
      have heard : Heard true world.session.nextId closing :=
        ((heard ready).hushed hushed left.ebbs rfl id).hushed tamed.hushed tamed.ebbs
          (by rw [same]; rfl) (by rw [same]; exact id)
      have made : Present closing := (made.hushed hushed rfl).hushed tamed.hushed (by rw [same]; rfl)
      dsimp only
      rw [ensures_bind]
      refine ((sendRequest_delivers "shutdown" .null none passive).and
        (sendRequest_passive "shutdown" .null none passive)).mono ?_
      rintro (fault | (error | id)) asked ⟨first, passive, -⟩
      · exact first.elim
      · obtain ⟨data, encodes⟩ := farewell_encodes closing.session.nextId
        cases encodes.symm.trans first.2
      · dsimp only
        rw [ensures_bind]
        have first : Delivered (promised closing.session none) (farewell closing.session.nextId)
            closing asked := first
        have next : closing.session.nextId = world.session.nextId := by rw [same]
        -- the notification is sent even where the request was refused
        have ends : ∀ last, last = asked ∨ Delivered asked.session parting asked last →
            Mannered last := by
          have made : ∀ server, (promised closing.session none).server = some server →
              server < closing.servers.length := made
          refine fun last second => mannered.parted made (fun server served runs => ?_) first second
          rw [next]
          exact heard server served runs (by rw [same]; exact asks.2)
        refine (sendNotification_delivers "exit" .null passive).mono ?_
        rintro (fault | (error | _)) last second
        · exact second.elim
        · exact ends last (.inl second.1)
        · exact ends last (.inr second)
    · exact mannered.hushed hushed
  · exact mannered

theorem endSession_mannered {server : Nat} (passive : Passive world) (mannered : Mannered world)
    (made : Present world) (heard : world.session.ready = true → Heard true world.session.nextId world) :
    Ensures (endSession nested server) world fun _ => Mannered := by
  have forgets {start : World} (passive : Passive start) (mannered : Mannered start) :
      Ensures (forget nested server) start fun _ => Mannered :=
    (ensures_noted (forget_notes hush_tame server start) passive).mono fun _ _ tamed =>
      mannered.hushed tamed.hushed
  unfold endSession
  rw [ensures_bind]
  simp only [ensures_modifySession]
  rw [ensures_bind]
  simp only [ensures_write, add_eq_noting]
  rw [ensures_bind]
  have hushed : Hushed world (World.noting
      { world with session := { world.session with stopping := true } } (.ending server)) :=
    ⟨(hushed_noting (show Hush (.ending server) from trivial) world).told, rfl⟩
  have stopping : Passive (World.noting
      { world with session := { world.session with stopping := true } } (.ending server)) :=
    passive.kept
  refine ((askToEnd_mannered stopping (mannered.hushed hushed) (made.hushed hushed rfl) ?_).and
    (askToEnd_passive server stopping)).mono ?_
  · exact fun ready => (heard ready).hushed hushed (ebbs_of_servers rfl) rfl id
  · rintro _ asked ⟨mannered, ⟨graceful, rfl⟩, passive⟩
    dsimp only
    rw [ensures_bind, ensures_tryCatch]
    -- closed or not, the process is handed nothing more
    have dismissed : Ensures (dismiss server graceful) asked fun _ => LeavesBut _ asked :=
      dismiss_leaves server graceful asked
    refine dismissed.mono ?_
    rintro (fault | _) gone left
    all_goals have mannered := mannered.hushed ((left passive).hushed fun _ => Ends.hush)
    · dsimp only
      rw [ensures_bind]
      refine (forgets (left passive).passive mannered).mono ?_
      rintro (fault | _) _ mannered
      · exact mannered
      · exact mannered
    · exact forgets (left passive).passive mannered

theorem stop_mannered {expected : Option Nat} (passive : Passive world) (mannered : Mannered world)
    (made : Present world) (heard : world.session.ready = true → Heard true world.session.nextId world) :
    Ensures (stop nested expected) world fun _ => Mannered := by
  unfold stop
  rw [ensures_bind]
  simp only [ensures_getSession]
  split
  · exact mannered
  · split
    · exact mannered
    · exact endSession_mannered passive mannered made heard

theorem Proper.closing (proper : Proper world) (ready : world.session.ready = true) :
    Heard true world.session.nextId world := ready ▸ proper.heard

theorem stop_proper {expected : Option Nat} (passive : Passive world) (proper : Proper world)
    (own : ∀ server ∈ expected, world.session.server = some server)
    (stopping : world.session.stopping = false)
    (rest : world.session.server = none → Rest world.session) :
    Ensures (stop nested expected) world fun _ => Proper := by
  refine ((stop_mannered passive proper.mannered proper.made proper.closing).and
    (stop_passive passive own stopping rest)).mono ?_
  rintro _ _ ⟨mannered, ended⟩
  exact ended.proper mannered

theorem stopIfAborted_proper (passive : Passive world) (stopping : world.session.stopping = false)
    (proper : Proper world) : Ensures (stopIfAborted nested) world fun _ => Proper := by
  unfold stopIfAborted
  rw [ensures_bind]
  simp only [ensures_getSession]
  split
  · split
    · exact proper
    · next server served =>
      exact stop_proper passive proper (by simp [served]) stopping (by simp [served])
  · exact proper

theorem Pausing.stopping {session : Session} (pausing : Pausing session) :
    session.stopping = false := pausing.elim Rest.stopping Failing.stopping

/-! ## Output of a server -/

theorem answerRequest_proper {message : Json} (request : Message.classify message = .request)
    (civil : Civil world) (goes_on : world.session.abortRequested = false) :
    Ensures (answerRequest nested message) world fun _ => Proper := by
  obtain ⟨reply, same⟩ := reply_of_request request world.session.root
  have sends {start : World} (civil : Civil start) (goes_on : start.session.abortRequested = false) :
      Ensures (sendReply nested message reply.envelope) start fun _ => Proper := by
    unfold sendReply
    split
    · exact (civil.ensures (within_record _)).mono fun _ _ => Civil.proper
    · refine (writeMessage_delivers _ _ civil.passive).mono fun _ _ delivered => ?_
      refine civil.proper.delivered rfl (fun server served runs => ?_) delivered
      exact (civil.proper.heard server served runs goes_on).answer ⟨_, _, _, request, same, rfl⟩
  unfold answerRequest
  rw [ensures_bind]
  simp only [ensures_getSession]
  rw [ensures_bind, ensures_ofExcept, same]
  dsimp only
  split
  · rw [ensures_bind, record, ensures_write, add_eq_noting]
    exact sends (civil.left (Tolerant.noting world _ trivial)) goes_on
  · exact sends civil goes_on

theorem finishHandshake_civil (completion : Completion) (civil : Civil world)
    (goes_on : world.session.abortRequested = false) (unready : world.session.ready = false)
    (next : world.session.nextId = 2) :
    Ensures (finishHandshake nested completion) world fun _ => Civil := by
  have civil : Civil { world with session := { world.session with handshakeId := none } } :=
    ⟨civil.passive.kept,
      civil.proper.becoming rfl rfl rfl id⟩
  unfold finishHandshake
  rw [ensures_bind]
  simp only [ensures_modifySession]
  split
  · rw [ensures_bind]
    refine ((sendNotification_delivers "initialized" (.object []) civil.passive).and
      (sendNotification_passive "initialized" (.object []) _ civil.passive)).mono ?_
    rintro (fault | (error | _)) opened ⟨delivered, -, passive, -⟩
    · exact delivered.elim
    · obtain ⟨data, encodes⟩ := opening_encodes
      cases encodes.symm.trans delivered.2
    · have delivered : Delivered { world.session with handshakeId := none } opening
          { world with session := { world.session with handshakeId := none } } opened := delivered
      -- until now the process was only told answers, so it may be told that it is open
      have fits (server : Nat) (served : world.session.server = some server)
          (runs : world.isRunning server = true) :
          Speaks true 2 (world.told server ++ [(opening, true)]) := by
        have speaks := civil.proper.heard server served runs goes_on
        change Speaks world.session.ready _ _ at speaks
        rw [unready] at speaks
        exact speaks.opened
      obtain ⟨mannered, heard⟩ := civil.proper.mannered.delivered civil.proper.made fits delivered
      obtain ⟨aborted, same⟩ := delivered.aborting
      dsimp only
      refine ((setReady_passive true passive).and
        (ensures_noted (setReady_notes hush_tame true opened) passive)).mono ?_
      rintro _ ready ⟨⟨rfl, passive, later⟩, tamed⟩
      simp only [same, unready, Bool.false_eq_true, if_false, if_true] at later
      have server : ready.session.server = opened.session.server := by rw [later, same]
      have goes_on : ready.session.abortRequested = opened.session.abortRequested := by
        rw [later, same]
      refine ⟨passive, mannered.hushed tamed.hushed,
        (delivered.made civil.proper.made).hushed tamed.hushed server, ?_⟩
      have stage : ready.session.ready = true := by rw [later]
      have id : ready.session.nextId = 2 := by rw [later]; exact next
      rw [stage, id]
      exact heard.hushed tamed.hushed tamed.ebbs server goes_on.symm.trans
  · rw [ensures_bind]
    refine (civil.ensures (emitLog_leaves _)).mono ?_
    rintro (fault | _) told civil
    · exact civil
    · simp only [requestAbort, ensures_modifySession]
      exact ⟨civil.passive.kept,
        civil.proper.becoming rfl rfl rfl (by simp)⟩

theorem complete_civil {handler : Handler} (completion : Completion) (civil : Civil world)
    (goes_on : world.session.abortRequested = false)
    (beginning : handler = .handshake → world.session.ready = false ∧ world.session.nextId = 2) :
    Ensures (complete nested handler completion) world fun _ => Civil := by
  by_cases other : handler = .handshake
  · obtain ⟨unready, next⟩ := beginning other
    subst other
    exact finishHandshake_civil completion civil goes_on unready next
  · exact civil.ensures (complete_leaves other completion)

structure Settled (world : World) : Prop where
  rest : AtRest world
  proper : Proper world

theorem Settled.civil (settled : Settled world) : Civil world :=
  ⟨settled.rest.passive, settled.proper⟩

theorem Settled.left {world' : World} (settled : Settled world) (leaves : Leaves world world') :
    Settled world' :=
  ⟨settled.rest.leaves leaves, (settled.civil.left leaves).proper⟩

theorem Settled.ensures {α : Type} {action : Act World α} (settled : Settled world)
    (leaves : Within Leaves action) : Ensures action world fun _ => Settled :=
  (leaves world).mono fun _ _ => settled.left

theorem Settled.noting (settled : Settled world) {entry : Entry} (hush : Hush entry) :
    Settled (world.noting entry) := by
  have hushed := hushed_noting hush world
  have passive := settled.rest.passive
  have proper := settled.proper
  refine ⟨⟨passive.kept, settled.rest.rest⟩,
    proper.mannered.hushed hushed, proper.made.hushed hushed rfl, ?_⟩
  exact proper.heard.hushed hushed (ebbs_of_servers rfl) rfl id

theorem Settled.bind {α β : Type} {action : Act World α} {next : α → Act World β}
    (settled : Settled world) (leaves : Within Leaves action)
    (second : ∀ value world', Settled world' → world'.session = world.session →
      Ensures (next value) world' fun _ => Proper) :
    Ensures (action >>= next) world fun _ => Proper := by
  rw [ensures_bind]
  refine (leaves world).mono ?_
  rintro (fault | value) world' left
  · exact (settled.left left).proper
  · exact second value world' (settled.left left) (left settled.rest.passive).session

theorem ensures_settled {α : Type} {action : Act World α}
    (rest : Ensures action world fun _ => AtRest) (proper : Ensures action world fun _ => Proper) :
    Ensures action world fun _ => Settled :=
  (rest.and proper).mono fun _ _ both => ⟨both.1, both.2⟩

theorem resolve_civil (message : Json) (settled : Settled world) :
    Ensures (Registry.resolve (complete nested) message) world fun _ => Civil := by
  have rest := settled.rest.rest
  simp only [Registry.resolve, ensures_bind, ensures_getPending, ensures_ofExcept]
  rcases Registry.take_cases world.session.pending (message.member "id") with
    ⟨fault, -, refused⟩ | missed | ⟨before, after, key, handler, split, -, taken⟩
  · rw [refused]
    exact settled.civil
  · rw [missed]
    refine settled.civil.ensures (Within.bind (within_record _) fun _ => within_pure _)
  · rw [taken]
    simp only [ensures_bind, ensures_setPending]
    -- only a session that begins waits for its own request, which is the first one
    have beginning (own : handler = .handshake) :
        world.session.ready = false ∧ world.session.nextId = 2 := by
      rcases rest.waiting split with ⟨beginning, -⟩ | ⟨-, other, -⟩
      · exact ⟨beginning.ready, beginning.nextId⟩
      · exact (other own).elim
    have taking : Civil { world with
        session := { world.session with pending := ⟨before ++ after⟩ } } :=
      ⟨settled.rest.passive.kept,
        settled.proper.becoming rfl rfl rfl id⟩
    rw [contain, ensures_tryCatch]
    refine (complete_civil _ taking rest.abortRequested beginning).mono ?_
    rintro (fault | _) told civil
    · refine (civil.ensures (within_record _)).mono ?_
      rintro (fault | _) _ civil
      · exact civil
      · exact civil
    · exact civil

theorem handleMessage_civil (message : Json) (settled : Settled world) :
    Ensures (handleMessage nested message) world fun _ => Civil := by
  unfold handleMessage
  rw [ensures_bind, record, ensures_write, add_eq_noting]
  have settled := settled.left (Tolerant.noting world (.logged (Log.messageIn message)) trivial)
  dsimp only
  cases kind : Message.classify message with
  | response =>
      dsimp only
      rw [ensures_bind]
      refine (resolve_civil message settled).mono ?_
      rintro (fault | _) world' civil
      · exact civil
      · exact civil
  | request =>
      refine ((answerRequest_proper kind settled.civil settled.rest.rest.abortRequested).and
        (answerRequest_passive kind settled.rest)).mono ?_
      rintro _ _ ⟨proper, pauses⟩
      exact ⟨pauses.passive, proper⟩
  | notification =>
      dsimp only
      split
      · exact settled.civil.ensures (emit_leaves _)
      · exact settled.civil
  | invalid => exact settled.civil.ensures (within_record _)

theorem handleMessages_proper (server : Nat) (messages : List Json) (passive : Passive world)
    (pausing : Pausing world.session) (proper : Proper world) :
    Ensures (handleMessages nested server messages) world fun _ => Proper := by
  refine handleMessages_each (fun message world rest _ proper => ?_) passive pausing proper
  have settled : Settled (world.noting (.handling server message)) :=
    Settled.noting ⟨rest, proper⟩ trivial
  exact (handleMessage_civil message settled).mono fun _ _ civil => civil.proper

theorem handleFeed_settled (server : Nat) (fed : Frame.Feed) (settled : Settled world) :
    Ensures (handleFeed nested server fed) world fun _ => Settled := by
  refine ensures_settled (handleFeed_passive server fed settled.rest) ?_
  refine ensures_fed (fun _ => Settled.proper)
    (fun note _ _ settled => settled.ensures (within_record note))
    (fun _ _ settled => settled.ensures (emitLog_leaves _)) (fun start settled => ?_) settled
  have rest := settled.rest
  rw [ensures_bind]
  refine ((handleMessages_passive server fed.messages rest.passive (.inl rest.rest)).and
    (handleMessages_proper server fed.messages rest.passive (.inl rest.rest) settled.proper)).mono ?_
  rintro (fault | _) handled ⟨⟨passive, after, -, -⟩, proper⟩
  · exact proper
  · exact stopIfAborted_proper passive after.stopping proper

theorem receive_settled (server : Nat) (data : Bytes) (settled : Settled world) :
    Ensures (receive nested server data) world fun _ => Settled := by
  refine ensures_settled (receive_passive server data settled.rest) ?_
  have arrived : Settled (world.noting (.arrived server data)) := settled.noting trivial
  refine ensures_arrival arrived.proper fun served _ => ?_
  have reading (buffer : Bytes) : Settled { world.noting (.arrived server data) with
      session := { world.session with buffer := buffer } } := by
    refine ⟨⟨settled.rest.passive.kept, ?_⟩, arrived.proper.becoming rfl rfl rfl id⟩
    exact settled.rest.rest.buffering (Option.isSome_iff_exists.mpr ⟨server, served⟩) _
  exact (handleFeed_settled server _ (reading _)).mono fun _ _ => Settled.proper

theorem receiveError_settled (server : Nat) (text : Text) (settled : Settled world) :
    Ensures (receiveError nested server text) world fun _ => Settled := by
  refine settled.ensures ?_
  refine Within.bind within_getSession fun session => ?_
  split
  · exact emitLog_leaves _
  · exact within_pure _

theorem serverEnded_settled (server : Nat) (code : Option Int) (settled : Settled world) :
    Ensures (serverEnded nested server code) world fun _ => Settled := by
  refine ensures_settled (serverEnded_passive server code settled.rest) ?_
  unfold serverEnded
  rw [ensures_bind]
  simp only [ensures_getSession]
  split
  · next current =>
    simp only [Bool.and_eq_true, decide_eq_true_eq] at current
    refine settled.bind (within_record _) fun _ _ settled same => ?_
    refine settled.bind (emitLog_leaves _) fun _ _ settled later => ?_
    refine stop_proper settled.rest.passive settled.proper ?_ settled.rest.rest.stopping
      fun _ => settled.rest.rest
    rintro _ ⟨⟩
    rw [later, same]
    exact current.1
  · exact settled.proper

/-! ## The start of a session -/

theorem beginHandshake_proper (root : Option Text) {folder : Text} {server : Nat}
    (passive : Passive world) (same : world.session = launched folder server)
    (mannered : Mannered world) (made : server < world.servers.length)
    (untold : world.told server = []) :
    Ensures (beginHandshake nested root) world fun _ => Proper := by
  have made : ∀ other, (promised (launched folder server) (some .handshake)).server = some other →
      other < world.servers.length := by
    rintro _ ⟨⟩
    exact made
  unfold beginHandshake
  dsimp only
  rw [ensures_bind]
  refine ((sendRequest_delivers "initialize" _ (some .handshake) passive).and
    (sendRequest_passive "initialize" _ (some .handshake) passive)).mono ?_
  rintro (fault | (error | number)) sent ⟨delivered, passive, -⟩
  · exact delivered.elim
  · obtain ⟨rfl, -⟩ := delivered
    dsimp only
    rw [ensures_bind]
    refine (Succeeds.left (emitLog_succeeds _) (emitLog_leaves _) passive).mono ?_
    rintro _ logged ⟨⟨_, rfl⟩, left⟩
    have hushed := left.hushed fun _ => False.elim
    simp only [requestAbort, ensures_modifySession]
    -- nothing was written, and the session is to be aborted
    refine ⟨mannered.hushed ⟨hushed.told, hushed.count⟩, fun other served => ?_, by simp [Heard]⟩
    rw [left.session, same] at served
    exact (made other served).trans_eq hushed.count.symm
  · simp only [ensures_modifySession]
    have fits (other : Nat)
        (served : (promised (launched folder server) (some .handshake)).server = some other)
        (_ : world.isRunning other = true) : Speaks false 2 (world.told other ++
          [(greeting ((root.map Json.string).getD .null), true)]) := by
      obtain rfl : server = other := Option.some.inj served
      rw [untold]
      exact speaks_greeting _ _
    have delivered : Delivered (promised (launched folder server) (some .handshake))
        (greeting ((root.map Json.string).getD .null)) world sent := by
      rw [same] at delivered
      exact delivered
    obtain ⟨mannered, heard⟩ := mannered.delivered made fits delivered
    obtain ⟨aborted, same⟩ := delivered.aborting
    have proper : Proper sent := by
      refine ⟨mannered, delivered.made made, ?_⟩
      rw [same]
      exact heard
    exact proper.becoming rfl rfl rfl id

theorem bringUp_proper (command : Text) (arguments : List Text) (root : Option Text)
    {folder : Text} {server : Nat} (passive : Passive world)
    (same : world.session = launched folder server) (mannered : Mannered world)
    (made : server < world.servers.length) (untold : world.told server = []) :
    Ensures (bringUp nested command arguments root server) world fun _ => Proper := by
  have spawns : Within Hushed (spawn server) :=
    spawn_within server fun world => ⟨fun _ => rfl, by simp [World.modifyServer]⟩
  unfold bringUp
  rw [ensures_bind]
  refine (Succeeds.left (record_succeeds _) (within_record _) passive).mono ?_
  rintro _ recorded ⟨⟨_, rfl⟩, left⟩
  have same := left.session.trans same
  have recording := left.hushed fun _ => False.elim
  dsimp only
  rw [ensures_bind]
  refine ((spawn_passive server left.passive).and (spawns recorded)).mono ?_
  rintro _ spawned ⟨⟨⟨failure, rfl⟩, passive, left, -⟩, spawning⟩
  have same := left.trans same
  have hushed := trans_of Hushed recording spawning
  have mannered := mannered.hushed hushed
  have made : server < spawned.servers.length := hushed.count ▸ made
  dsimp only
  split
  · rw [ensures_bind]
    refine (Succeeds.left (emitLog_succeeds _) (emitLog_leaves _) passive).mono ?_
    rintro _ logged ⟨⟨_, rfl⟩, left⟩
    have same := left.session.trans same
    have hushed := left.hushed fun _ => False.elim
    have closes : Ensures (stop nested none) logged fun _ => Mannered := by
      refine stop_mannered left.passive (mannered.hushed hushed) ?_ (by simp [same, launched])
      intro other served
      rw [same] at served
      obtain rfl : server = other := Option.some.inj served
      exact made.trans_eq hushed.count.symm
    dsimp only
    rw [ensures_bind]
    refine (closes.and (stop_passive left.passive (by simp) (by rw [same]; rfl)
      (by simp [same, launched]))).mono ?_
    rintro (fault | _) world' ⟨mannered, ended⟩
    · exact ended.proper mannered
    · exact ended.proper mannered
  · rw [ensures_bind]
    refine ((beginHandshake_passive root passive same).and (beginHandshake_proper root passive same
      mannered made ((hushed.told server).trans untold))).mono ?_
    rintro _ greeted ⟨⟨⟨_, rfl⟩, passive, pausing, -, -⟩, proper⟩
    dsimp only
    rw [ensures_bind]
    refine (stopIfAborted_proper passive pausing.stopping proper).mono ?_
    rintro (fault | _) world' proper
    · exact proper
    · exact proper

theorem told_adopting (world : World) (argv : List Text) (server : Nat) :
    (world.adopting argv).told server = world.told server :=
  (told_noting _ _ _).trans (List.append_nil _)

theorem Mannered.adopting (mannered : Mannered world) (argv : List Text) :
    Mannered (world.adopting argv) := by
  refine ⟨fun server => ?_, fun server beyond => ?_⟩
  · rw [told_adopting]
    exact mannered.follows server
  · rw [told_adopting]
    refine mannered.unmade server ?_
    have count : (world.adopting argv).servers.length = world.servers.length + 1 := by
      simp [World.adopting]
    omega

theorem start_settled (command : Text) (arguments : List Text) (root : Option Text)
    (settled : Settled world) :
    Ensures (start nested command arguments root) world fun _ => Settled := by
  refine ensures_settled (start_passive command arguments root settled.rest) ?_
  refine ensures_start Mannered settled.rest ?_ ?_ (fun _ _ ended => ended.proper) ?_
  · exact stop_mannered settled.rest.passive settled.proper.mannered settled.proper.made
      settled.proper.closing
  · intro stopped ended mannered
    refine (ensures_noted (prepare_notes hush_tame _ stopped) ended.passive).mono ?_
    exact fun _ _ tamed => mannered.hushed tamed.hushed
  · intro begun prepared mannered
    have untold : (begun.adopting (command :: arguments)).told begun.servers.length = [] :=
      (told_adopting _ _ _).trans (mannered.unmade _ (Nat.le_refl _))
    exact bringUp_proper command arguments root (prepared.passive.adopting _) (prepared.adopted _)
      (mannered.adopting _) (by simp [World.adopting]) untold

/-! ## Requests and documents -/

theorem trySend_proper (method : Text) (params : Json) (handler : Option Handler)
    (settled : Settled world) :
    Ensures (trySend nested method params handler) world fun _ => Proper := by
  have looked : Ensures unavailable world fun _ => Leaves world := unavailable_within world
  unfold trySend
  rw [ensures_bind]
  refine (looked.and (unavailable_ready world)).mono ?_
  rintro ending looked ⟨left, able⟩
  -- only a ready session goes on to write
  have ready : ending = .ok none → looked.session.ready = true := by
    rw [(left settled.rest.passive).session]
    exact able
  have settled := settled.left left
  match ending with
  | .error fault => exact settled.proper
  | .ok (some error) => exact settled.proper
  | .ok none =>
      have ready := ready rfl
      dsimp only
      rw [ensures_bind]
      refine ((sendRequest_delivers method params handler settled.rest.passive).and
        (sendRequest_passive method params handler settled.rest.passive)).mono ?_
      rintro (fault | (error | id)) sent ⟨delivered, passive, -⟩
      · exact delivered.elim
      · obtain ⟨rfl, -⟩ := delivered
        exact (settled.ensures (within_record _)).mono fun _ _ => Settled.proper
      · have delivered : Delivered (promised looked.session handler)
            (Message.request (.nat looked.session.nextId) (.string method) params) looked sent :=
          delivered
        have proper : Proper sent := by
          refine settled.proper.delivered (by rfl) (fun server served runs => ?_) delivered
          have speaks := settled.proper.heard server served runs settled.rest.rest.abortRequested
          change Speaks looked.session.ready (looked.session.nextId + 1) _
          rw [ready] at speaks ⊢
          exact speaks.request method params
        exact proper

theorem request_settled (method : Text) (params : Json) {handler : Option Handler}
    (other : ∀ waiting ∈ handler, waiting ≠ .handshake) (settled : Settled world) :
    Ensures (request nested method params handler) world fun _ => Settled := by
  refine ensures_settled (request_passive method params other settled.rest) ?_
  unfold request
  rw [ensures_bind]
  refine ((trySend_passive method params other settled.rest).and
    (trySend_proper method params handler settled)).mono ?_
  rintro (fault | (error | id)) sent ⟨⟨passive, after⟩, proper⟩
  · exact proper
  · have settled : Settled sent := ⟨⟨passive, after⟩, proper⟩
    cases handler with
    | none => exact proper
    | some handler =>
        exact settled.bind (complete_leaves (other handler rfl) _) fun _ _ settled _ =>
          settled.proper
  · dsimp only
    rw [ensures_bind]
    refine (stopIfAborted_proper passive (Pausing.stopping after) proper).mono ?_
    rintro (fault | _) world' proper
    · exact proper
    · exact proper

theorem requestSync_settled (method : Text) (params : Json) (timeout : Option Duration)
    (settled : Settled world) :
    Ensures (requestSync nested method params timeout) world fun _ => Settled := by
  unfold requestSync
  rw [ensures_bind]
  simp only [ensures_get]
  rw [ensures_bind]
  simp only [ensures_modify]
  have claimed : Settled { world with nextSlot := world.nextSlot + 1 } :=
    settled.left (leaves_of_parts rfl (List.Subset.refl _) rfl rfl rfl (adds_of_journal rfl))
  refine Ensures.bind (request_settled method params ?_ claimed) fun _ _ settled => ?_
  · rintro _ ⟨⟩
    simp
  · refine settled.ensures (Within.bind (collectMail_within _ _) fun found => ?_)
    split
    · exact within_pure _
    · refine Within.bind (within_ofExcept _) fun tenths => ?_
      exact Within.bind (within_record _) fun _ => within_pure _

theorem notify_then_proper {method : Text} (params : Json) (change : Documents → Documents)
    (tells : method ∈ documentMethods) (settled : Settled world)
    (ready : world.session.ready = true) :
    Ensures (do
      if ← notify nested method params then
        modifyThe Session fun session => { session with documents := change session.documents }
      stopIfAborted nested : Act World Unit) world fun _ => Proper := by
  have notifies : Ensures (notify nested method params) world fun _ => Proper := by
    unfold notify
    rw [ensures_bind]
    refine ((sendNotification_delivers method params settled.rest.passive).and
      (sendNotification_passive method params _ settled.rest.passive)).mono ?_
    rintro (fault | (error | _)) sent ⟨delivered, -, passive, -⟩
    · exact delivered.elim
    · obtain ⟨rfl, -⟩ := delivered
      exact settled.bind (within_record _) fun _ _ settled _ => settled.proper
    · have delivered : Delivered world.session
          (Message.notification (.string method) params) world sent := delivered
      refine settled.proper.delivered rfl (fun server served runs => ?_) delivered
      have speaks := settled.proper.heard server served runs settled.rest.rest.abortRequested
      rw [ready] at speaks ⊢
      exact speaks.document ⟨method, tells, params, rfl⟩
  rw [ensures_bind]
  refine ((notify_passive method params world settled.rest.passive).and notifies).mono ?_
  rintro _ sent ⟨⟨⟨told, rfl⟩, passive, attempted⟩, proper⟩
  have stopping := (settled.rest.rest.attempted attempted).stopping
  cases told with
  | false => exact stopIfAborted_proper passive stopping proper
  | true =>
      dsimp only
      rw [if_pos rfl, ensures_bind]
      simp only [ensures_modifySession]
      refine stopIfAborted_proper ?_ stopping (proper.becoming rfl rfl rfl id)
      exact passive.kept

theorem giveNotice_settled (notice : Notice) (settled : Settled world) :
    Ensures (giveNotice nested notice) world fun _ => Settled := by
  refine ensures_settled (giveNotice_passive notice settled.rest) ?_
  unfold giveNotice
  rw [ensures_bind]
  simp only [ensures_getSession]
  split
  · next ready =>
    refine notify_then_proper _ (fun documents => notice.apply documents) ?_ settled ready
    cases notice <;> simp [Notice.method, documentMethods]
  · exact settled.proper

/-! ## Steps -/

/-- No process that has ended runs again. -/
def Lasts (world world' : World) : Prop :=
  ∀ server < world.servers.length, world.isRunning server = false → world'.isRunning server = false

instance (world world' : World) : Decidable (Lasts world world') :=
  inferInstanceAs (Decidable (∀ server < world.servers.length, _ → _))

theorem Settled.adding (settled : Settled world) {callback : Callback Step}
    (passive : callback.script = []) : Settled (world.adding callback) :=
  ⟨settled.rest.adding passive, settled.proper.ebbing rfl rfl (ebbs_of_servers rfl)⟩

theorem Settled.modifying (settled : Settled world) (server : Nat) {change : Server → Server}
    (silent : ∀ process, Silent process.conduct → Silent (change process).conduct)
    (ebbs : Ebbs world (world.modifyServer server change)) :
    Settled (world.modifyServer server change) :=
  ⟨settled.rest.modifying server silent, settled.proper.ebbing rfl rfl ebbs⟩

theorem Lasts.ebbs {world' : World} (lasts : Lasts world world')
    (count : world'.servers.length = world.servers.length) : Ebbs world world' := by
  refine ⟨count, fun server runs => ?_⟩
  have known : server < world.servers.length := by
    rw [World.isRunning, World.server?, Option.any_eq_true] at runs
    obtain ⟨process, found, -⟩ := runs
    exact count ▸ (List.getElem?_eq_some_iff.mp found).1
  by_contra ended
  simp [lasts server known (by simpa using ended)] at runs

theorem performWith_settled {step : Step} (passive : step.Passive) (settled : Settled world)
    (lasts : Ensures (performWith nested step) world fun _ => Lasts world) :
    Ensures (performWith nested step) world fun _ => Settled := by
  cases step with
  | start command arguments root =>
      exact Ensures.bind (start_settled command arguments root settled) fun _ _ settled => settled
  | stop =>
      refine ensures_settled (performWith_passive passive settled.rest) ?_
      rw [performWith, ensures_bind]
      refine (stop_proper settled.rest.passive settled.proper (by simp)
        settled.rest.rest.stopping fun _ => settled.rest.rest).mono ?_
      rintro (fault | _) world' proper
      · exact proper
      · exact proper
  | waitReady timeout =>
      exact settled.ensures (Within.bind (waitReady_within timeout) fun _ => within_pure _)
  | version uri => exact settled.ensures (Within.bind within_getSession fun _ => within_pure _)
  | request method params handler =>
      cases handler with
      | none =>
          exact Ensures.bind (request_settled method params (by simp) settled)
            fun _ _ settled => settled
      | some callback =>
          have registered : Settled (world.adding { callback with kind := "handler" }) :=
            settled.adding (passive callback rfl)
          rw [performWith, ensures_bind, ensures_addCallback]
          dsimp only
          refine Ensures.bind (request_settled method params ?_ registered) fun id _ settled => ?_
          · rintro _ ⟨⟩
            simp
          · exact settled.noting (show Hush (.requested _ id) from trivial)
  | requestSync method params timeout =>
      exact Ensures.bind (requestSync_settled method params timeout settled)
        fun _ _ settled => settled
  | didOpen uri language text =>
      exact Ensures.bind (giveNotice_settled (.opened uri language text) settled) fun _ _ settled =>
        settled
  | didChange uri text =>
      exact Ensures.bind (giveNotice_settled (.changed uri text) settled) fun _ _ settled => settled
  | didClose uri =>
      exact Ensures.bind (giveNotice_settled (.closed uri) settled) fun _ _ settled => settled
  | subscribe channel listener =>
      have added : Settled (world.adding { listener with kind := channel.name }) :=
        settled.adding passive
      rw [performWith, ensures_bind, ensures_addCallback]
      exact added.left
        (leaves_of_parts rfl (List.Subset.refl _) rfl rfl rfl (adds_of_journal rfl))
  | unsubscribe name =>
      refine settled.ensures (Within.bind (Within.bind within_get fun world => ?_)
        fun _ => within_pure _)
      split
      · exact within_pure _
      · exact fun world => leaves_of_parts rfl (List.Subset.refl _) rfl rfl rfl (adds_of_journal rfl)
  | send server message =>
      refine Ensures.bind (settled.ensures (within_ofExcept _)) fun data _ settled => ?_
      refine Ensures.bind (ensures_withServer settled ?_) fun _ _ settled => settled
      exact fun server => receive_settled server data settled
  | raw server data =>
      refine Ensures.bind (ensures_withServer settled ?_) fun _ _ settled => settled
      exact fun server => receive_settled server data settled
  | stderr server text =>
      refine Ensures.bind (ensures_withServer settled ?_) fun _ _ settled => settled
      exact fun server => receiveError_settled server text settled
  | exit server code =>
      refine Ensures.bind (ensures_withServer settled ?_) fun _ _ settled => settled
      intro server
      rw [ensures_bind]
      simp only [ensures_modify]
      exact serverEnded_settled server code (settled.modifying server (fun _ => id)
        (ebbs_modifying world server (by simp)))
  | onExit server code =>
      refine Ensures.bind (ensures_withServer settled ?_) fun _ _ settled => settled
      exact fun server => serverEnded_settled server code settled
  | set server running change =>
      -- a change of conduct may not set an ended process running again
      simp only [performWith, withServer, chosenServer, ensures_bind, ensures_get, ensures_pure]
        at lasts ⊢
      split
      · next chosen =>
        simp only [chosen] at lasts
        refine settled.modifying _ (fun process => passive process.conduct) (Lasts.ebbs lasts ?_)
        simp [World.modifyServer]
      · exact settled
  | setFactory change =>
      refine ⟨⟨⟨settled.rest.passive.callbacks, settled.rest.passive.servers, ?_⟩,
        settled.rest.rest⟩, settled.proper.ebbing rfl rfl (ebbs_of_servers rfl)⟩
      exact passive _ settled.rest.passive.factory

end

/-! ## Runs -/

theorem settled_fresh (settings : Settings) {factory : Conduct} (silent : Silent factory) :
    Settled { settings := settings, factory := factory } where
  rest := atRest_fresh settings silent
  proper := ⟨⟨fun _ => follows_nil, fun _ _ => rfl⟩, by simp [Present], by simp [Heard]⟩

theorem turns_settled {nested : Nested} {script : List Step}
    (passive : ∀ step ∈ script, step.Passive) {world : World}
    (lasting : (world :: (turns (performWith nested) world script).map Turn.after).IsChain Lasts)
    (settled : Settled world) :
    ∀ turn ∈ turns (performWith nested) world script, Settled turn.after := by
  induction script generalizing world with
  | nil => simp [turns]
  | cons step script ih =>
      obtain ⟨lasts, lasting⟩ := List.isChain_cons_cons.mp lasting
      have after : Settled (turn (performWith nested) world step).after :=
        performWith_settled (passive step List.mem_cons_self) settled lasts
      intro other member
      rcases List.mem_cons.mp member with rfl | later
      · exact after
      · exact ih (fun step member => passive step (List.mem_cons_of_mem _ member)) lasting after
          other later

/--
In a run in which nobody calls the client from inside it and no process that has ended runs
again, every process is told what the life of a session allows, and its requests are numbered.
-/
theorem conversations_follow_lifecycle (settings : Settings) (factory : Conduct)
    (script : List Step) (silent : Silent factory) (passive : ∀ step ∈ script, step.Passive)
    (lasting : ({ settings := settings, factory := factory } ::
      (play { settings := settings, factory := factory } script).map Turn.after).IsChain Lasts) :
    ∀ turn ∈ play { settings := settings, factory := factory } script, ∀ server,
      FollowsLifecycle (handed server turn.after.journal.entries) ∧
        ∃ count, ((handed server turn.after.journal.entries).map Prod.fst).filterMap requestId? =
          (List.range' 1 count).map Json.nat := by
  intro turn member server
  have settled := turns_settled passive lasting (settled_fresh settings silent) turn member
  have follows := settled.proper.mannered.follows server
  exact ⟨follows, follows.ids⟩

/-- A session from its start to its end, in which the last request cannot be written. -/
def brokenFarewell : List Step :=
  [.start "srv" [] none, .send none (.object [("id", .nat 1), ("result", .object [])]),
    .didOpen "file:///a" "cpp" (.literal "int a;"),
    .set none none fun conduct => { conduct with
      refusesWrite := fun write => if write = 3 then some "broken" else none },
    .stop]

theorem conversations_of_broken_farewell :
    (handed 0 (leftBy {} (play {} brokenFarewell)).journal.entries).map Prod.snd =
        [true, true, true, false, true] ∧
      ∀ turn ∈ play {} brokenFarewell, ∀ server,
        FollowsLifecycle (handed server turn.after.journal.entries) ∧
          ∃ count, ((handed server turn.after.journal.entries).map Prod.fst).filterMap requestId? =
            (List.range' 1 count).map Json.nat :=
  ⟨by decide +kernel, conversations_follow_lifecycle {} {} brokenFarewell (fun _ => rfl)
    (by simp [brokenFarewell, Step.Passive, Silent]) (by decide +kernel)⟩

end Client

end LanguageSession
