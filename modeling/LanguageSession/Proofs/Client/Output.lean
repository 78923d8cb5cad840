import Mathlib
import LanguageSession.Proofs.Client.Processes

/-!
# What reading output comes to

Bytes of the current server are cut into messages, which are handled one after the other as
long as the session goes on with that server; bytes of any other server are dropped.  The
rules below say what must be shown of the parts of this for the whole to keep a predicate.
-/

namespace LanguageSession

namespace Client

open Act

variable {nested : Nested} {server : Nat} {world : World}

/-- Reading without stray output that was not stopped is followed by the messages. -/
theorem handleFeed_messages (server : Nat) (messages : List Json) (notes : List Log.Record)
    (buffer : Bytes) : handleFeed nested server ⟨messages, notes, none, buffer, none⟩ =
      notes.forM record >>= fun _ => handleMessages nested server messages >>= fun _ =>
        stopIfAborted nested := rfl

theorem ensures_receive {data : Bytes} (current : world.session.server = some server)
    (idle : world.session.stopping = false) (post : Except Fault Unit → World → Prop) :
    Ensures (receive nested server data) world post ↔
      Ensures (handleFeed nested server (Frame.feed world.session.buffer data))
        { world.noting (.arrived server data) with
          session := { world.session with
            buffer := (Frame.feed world.session.buffer data).buffer } } post := by
  unfold receive
  rw [ensures_bind, ensures_write, add_eq_noting]
  simp only [ensures_bind, ensures_getSession, noting_session, current, idle, decide_true,
    Bool.not_false, Bool.and_self, if_true, ensures_modifySession]

/-- What no current server sends is dropped. -/
theorem ensures_receive_dropped {data : Bytes}
    (dropped : ¬ (world.session.server = some server ∧ world.session.stopping = false))
    (post : Except Fault Unit → World → Prop) :
    Ensures (receive nested server data) world post ↔
      post (.ok ()) (world.noting (.arrived server data)) := by
  unfold receive
  rw [ensures_bind, ensures_write, add_eq_noting]
  dsimp only
  rw [ensures_bind]
  simp only [ensures_getSession]
  split
  · next reads =>
    simp only [Bool.and_eq_true, decide_eq_true_eq, Bool.not_eq_true'] at reads
    exact (dropped reads).elim
  · exact Iff.rfl

/-! ## Rules -/

variable {known post : World → Prop}

theorem ensures_messages {messages : List Json} (each : ∀ message world,
      known world → world.session.abortRequested = false → world.session.server = some server →
        Ensures (handleMessage nested message) (world.noting (.handling server message))
          fun _ => known)
    (start : known world) :
    Ensures (handleMessages nested server messages) world fun _ => known := by
  induction messages generalizing world with
  | nil => exact start
  | cons message later ih =>
      rw [handleMessages, ensures_bind]
      simp only [ensures_getSession]
      split
      · next goes_on =>
        simp only [Bool.and_eq_true, Bool.not_eq_true', decide_eq_true_eq] at goes_on
        rw [ensures_bind]
        simp only [ensures_write, add_eq_noting]
        exact Ensures.bind (each message world start goes_on.1 goes_on.2) fun _ _ => ih
      · exact start

/-- Up to the messages what is known is kept, and from there on it leads to what is claimed. -/
theorem ensures_fed {fed : Frame.Feed} (weaker : ∀ world, known world → post world)
    (notes : ∀ note ∈ fed.notes, ∀ world, known world →
      Ensures (record note : Act World Unit) world fun _ => known)
    (tells : ∀ text world, known world → Ensures (emitLog nested text) world fun _ => known)
    (handles : ∀ world, known world → Ensures (do
        handleMessages nested server fed.messages
        stopIfAborted nested : Act World Unit) world fun _ => post)
    (start : known world) : Ensures (handleFeed nested server fed) world fun _ => post := by
  -- an action that fails leaves what is known, and the others go on from it
  have next {action rest : Act World Unit} {world : World}
      (first : Ensures action world fun _ => known)
      (goes_on : ∀ world, known world → Ensures rest world fun _ => post) :
      Ensures (do action; rest) world fun _ => post := by
    rw [ensures_bind]
    refine first.mono ?_
    rintro (fault | _) after given
    · exact weaker after given
    · exact goes_on after given
  refine next (Ensures.forM notes start) fun noted given => ?_
  split
  · exact weaker noted given
  · dsimp only
    split
    · exact next (tells _ noted given) handles
    · exact handles noted given

theorem ensures_arrival {data : Bytes} (dropped : post (world.noting (.arrived server data)))
    (reads : world.session.server = some server → world.session.stopping = false →
      Ensures (handleFeed nested server (Frame.feed world.session.buffer data))
        { world.noting (.arrived server data) with
          session := { world.session with
            buffer := (Frame.feed world.session.buffer data).buffer } } fun _ => post) :
    Ensures (receive nested server data) world fun _ => post := by
  by_cases current : world.session.server = some server ∧ world.session.stopping = false
  · rw [ensures_receive current.1 current.2]
    exact reads current.1 current.2
  · exact (ensures_receive_dropped current _).mpr dropped

end Client

end LanguageSession
