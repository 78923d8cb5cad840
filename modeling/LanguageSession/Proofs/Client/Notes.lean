import Mathlib
import LanguageSession.Proofs.Client.Rest

/-!
# What a passive session notes

The operations of a passive session add only entries of certain kinds to the journal, and no
process begins to run while the session keeps its server.
-/

namespace LanguageSession

namespace Client

open Act

/-- Entries of this kind may be noted while a session goes on, begins or ends. -/
structure Tame (kind : Entry → Prop) : Prop where
  plain : ∀ entry, Plain entry → kind entry
  dropped : kind .dropped
  serving : ∀ server, kind (.serving server)
  ending : ∀ server, kind (.ending server)

/-- So may entries about the messages that a session writes. -/
structure Talking (kind : Entry → Prop) : Prop extends Tame kind where
  wrote : ∀ server message data, kind (.wrote server message data)
  refused : ∀ server message, kind (.writeRefused server message)
  awaits : ∀ callback id server, kind (.awaiting callback id server)

/-- A passive world stays passive, and only entries of the kind are added. -/
structure Tamed (kind : Entry → Prop) (world world' : World) : Prop where
  passive : Passive world'
  adds : Adds kind world world'
  ebbs : Ebbs world world'

def Notes (kind : Entry → Prop) (world world' : World) : Prop := Passive world → Tamed kind world world'

section

variable {kind : Entry → Prop} {world world' : World}

theorem Adds.mono {wider : Entry → Prop} (adds : Adds kind world world')
    (implies : ∀ entry, kind entry → wider entry) : Adds wider world world' := by
  obtain ⟨added, grown, each⟩ := adds
  exact ⟨added, grown, fun entry member => implies entry (each entry member)⟩

theorem Left.noted {allowed : Entry → Prop} (left : Left allowed world world') (tame : Tame kind)
    (admits : ∀ entry, allowed entry → kind entry) : Tamed kind world world' where
  passive := left.passive
  adds := left.adds.mono fun entry => Or.rec (tame.plain entry) (admits entry)
  ebbs := left.ebbs

theorem Succeeds.left {α : Type} {action : Act World α} (succeeds : Succeeds action)
    (leaves : Within Leaves action) (passive : Passive world) :
    Ensures action world fun ending world' =>
      (∃ value, ending = .ok value) ∧ Left (fun _ => False) world world' :=
  ⟨succeeds world, leaves world passive⟩

instance (kind : Entry → Prop) : IsPreorder World (Notes kind) where
  refl world passive := ⟨passive, refl_of (Adds _) world, refl_of Ebbs world⟩
  trans first second third before after passive := by
    obtain ⟨passive, adds, ebbs⟩ := before passive
    obtain ⟨passive, adds', ebbs'⟩ := after passive
    exact ⟨passive, trans_of (Adds _) adds adds', trans_of Ebbs ebbs ebbs'⟩

theorem notes_of_leaves {α : Type} {allowed : Entry → Prop} {action : Act World α}
    (tame : Tame kind) (leaves : Within (LeavesBut allowed) action)
    (admits : ∀ entry, allowed entry → kind entry) : Within (Notes kind) action :=
  fun world => (leaves world).mono fun _ _ left passive => (left passive).noted tame admits

theorem ensures_noted {α : Type} {action : Act World α}
    (notes : Ensures action world fun _ => Notes kind world) (passive : Passive world) :
    Ensures action world fun _ => Tamed kind world := notes passive

theorem Tame.leaves {α : Type} {action : Act World α} (tame : Tame kind)
    (leaves : Within Leaves action) : Within (Notes kind) action :=
  notes_of_leaves tame leaves fun _ => False.elim

theorem notes_write {entry : Entry} (admitted : kind entry) :
    Within (Notes kind) (write entry : Act World Unit) := fun world passive =>
  ⟨passive.kept, adds_noting admitted world,
    ebbs_of_servers rfl⟩

theorem notes_modifySession (change : Session → Session) :
    Within (Notes kind) (modifyThe Session change : Act World Unit) := fun _ passive =>
  ⟨passive.kept, adds_of_journal rfl, ebbs_of_servers rfl⟩

theorem notes_getSession : Within (Notes kind) (getThe Session : Act World Session) :=
  fun world => refl_of (Notes kind) world

variable {nested : Nested} (tame : Tame kind)

include tame

/-! ## Without a message -/

theorem setPhase_notes (phase : Phase) : Within (Notes kind) (setPhase phase) := by
  refine Within.bind notes_getSession fun session => ?_
  split
  · exact within_pure _
  · exact Within.bind (tame.leaves (within_record _)) fun _ => notes_modifySession _

theorem setReady_notes (ready : Bool) : Within (Notes kind) (setReady nested ready) := by
  refine Within.bind notes_getSession fun session => ?_
  split
  · exact within_pure _
  · refine Within.bind (notes_modifySession _) fun _ => ?_
    dsimp only
    split
    · exact Within.bind (setPhase_notes tame _) fun _ => tame.leaves (emit_leaves _)
    · exact tame.leaves (emit_leaves _)

theorem forget_notes (server : Nat) : Within (Notes kind) (forget nested server) := by
  refine Within.bind (tame.leaves within_get) fun world => ?_
  refine Within.bind (tame.leaves (within_record _)) fun _ => ?_
  refine Within.bind (notes_modifySession _) fun _ => ?_
  refine Within.bind (notes_write tame.dropped) fun _ => ?_
  refine Within.bind (notes_write (tame.serving _)) fun _ => ?_
  refine Within.bind (setReady_notes tame _) fun _ => ?_
  exact Within.bind (setPhase_notes tame _) fun _ => notes_modifySession _

theorem resetSession_notes (root : Text) : Within (Notes kind) (resetSession nested root) := by
  refine Within.bind (notes_modifySession _) fun _ => ?_
  exact Within.bind (notes_write tame.dropped) fun _ => setReady_notes tame _

theorem prepare_notes (root : Text) : Within (Notes kind) (prepare nested root) := by
  refine Within.bind (tame.leaves awaitEnding_within) fun _ => ?_
  exact Within.bind (resetSession_notes tame root) fun _ => setPhase_notes tame .starting

/-! ## With messages -/

omit tame

variable (talking : Talking kind)

include talking

theorem await_notes (id : Nat) (handler : Handler) : Within (Notes kind) (await id handler) := by
  have registers (world : World) (handler : Handler) : Notes kind world { world with
      session := { world.session with
        pending := ⟨Registry.insert (.nat id) handler world.session.pending.entries⟩ } } :=
    notes_modifySession (fun session => { session with
      pending := ⟨Registry.insert (.nat id) handler session.pending.entries⟩ }) world
  intro world
  rw [ensures_await]
  cases handler with
  | callback who =>
      exact trans_of (Notes kind) (registers world _) (notes_write (talking.awaits who id _) _)
  | handshake => exact registers world _
  | mailbox slot => exact registers world _

theorem deliver_notes (server : Nat) (message : Json) (data : Bytes) :
    Within (Notes kind) (deliver nested server message data) := by
  have modifies {change : Server → Server} (weakens : Weakens change) : Within (Notes kind)
      (modifyThe World (World.modifyServer server change) : Act World Unit) :=
    talking.leaves (within_modifyServer server weakens)
  intro world passive
  have kept : Ensures (deliver nested server message data) world fun _ => Notes kind world := by
    unfold deliver
    rw [ensures_bind]
    simp only [ensures_get]
    split
    · exact refl_of (Notes kind) world
    · next process known =>
      have silent := passive.servers process (List.mem_of_getElem? known)
      have counts : Weakens fun process => { process with writes := process.writes + 1 } :=
        fun _ => ⟨rfl, id⟩
      refine Within.bind (modifies counts) (fun _ => ?_) world
      split
      · exact Within.bind (notes_write (talking.refused _ _)) fun _ => within_pure _
      · refine Within.bind (notes_write (talking.wrote _ _ _)) fun _ => ?_
        refine Within.bind (modifies (accept_weakens message)) fun _ => ?_
        rw [silent]
        exact Within.bind (within_pure _) fun _ => within_pure _
  exact kept passive

theorem writeMessage_notes (message : Json) (data : Bytes) :
    Within (Notes kind) (writeMessage nested message data) := by
  refine Within.bind notes_getSession fun session => ?_
  split
  · exact within_pure _
  · refine Within.bind (talking.leaves (look_within _)) fun running => ?_
    split
    · refine Within.bind (deliver_notes talking _ _ _) fun failure => ?_
      split
      · exact Within.bind (talking.leaves (emitLog_leaves _)) fun _ => notes_modifySession _
      · exact talking.leaves (within_record _)
    · exact within_pure _

theorem sendNotification_notes (method : Text) (params : Json) :
    Within (Notes kind) (sendNotification nested method params) := by
  unfold sendNotification
  dsimp only
  split
  · exact within_pure _
  · exact Within.bind (writeMessage_notes talking _ _) fun _ => within_pure _

theorem sendRequest_notes (method : Text) (params : Json) (handler : Option Handler) :
    Within (Notes kind) (sendRequest nested method params handler) := by
  refine Within.bind notes_getSession fun session => ?_
  dsimp only
  split
  · exact within_pure _
  · refine Within.bind (notes_modifySession _) fun _ => ?_
    split
    · exact Within.bind (writeMessage_notes talking _ _) fun _ => within_pure _
    · refine Within.bind (await_notes talking _ _) fun _ => ?_
      exact Within.bind (writeMessage_notes talking _ _) fun _ => within_pure _

theorem askToEnd_notes (server : Nat) : Within (Notes kind) (askToEnd nested server) :=
  askToEnd_within (talking.leaves (look_within server)) (setPhase_notes talking.toTame _)
    (sendRequest_notes talking _ _ _) (sendNotification_notes talking _ _)

theorem endSession_notes {server : Nat} (ends : ∀ entry, Ends server entry → kind entry) :
    Within (Notes kind) (endSession nested server) := by
  refine Within.bind (notes_modifySession _) fun _ => ?_
  refine Within.bind (notes_write (talking.ending _)) fun _ => ?_
  refine Within.bind (askToEnd_notes talking _) fun graceful => ?_
  refine Within.bind (Within.tryCatch ?_ fun fault => ?_) fun _ => forget_notes talking.toTame _
  · exact notes_of_leaves talking.toTame (dismiss_leaves server graceful) ends
  · exact Within.bind (forget_notes talking.toTame _) fun _ => within_throw fault

theorem stop_notes {expected : Option Nat}
    (ends : ∀ server, world.session.server = some server → ∀ entry, Ends server entry → kind entry) :
    Ensures (stop nested expected) world fun _ => Notes kind world := by
  unfold stop
  rw [ensures_bind]
  simp only [ensures_getSession]
  split
  · exact refl_of (Notes kind) world
  · next server served =>
    split
    · exact refl_of (Notes kind) world
    · exact endSession_notes talking (ends server served) world

theorem stopIfAborted_notes
    (ends : ∀ server, world.session.server = some server → ∀ entry, Ends server entry → kind entry) :
    Ensures (stopIfAborted nested) world fun _ => Notes kind world := by
  unfold stopIfAborted
  rw [ensures_bind]
  simp only [ensures_getSession]
  split
  · split
    · exact refl_of (Notes kind) world
    · exact stop_notes talking ends
  · exact refl_of (Notes kind) world

theorem beginHandshake_notes (root : Option Text) :
    Within (Notes kind) (beginHandshake nested root) := by
  unfold beginHandshake
  dsimp only
  refine Within.bind (sendRequest_notes talking _ _ _) fun sent => ?_
  split
  · exact notes_modifySession _
  · exact Within.bind (talking.leaves (emitLog_leaves _)) fun _ => notes_modifySession _

end

end Client

end LanguageSession
