import Mathlib
import LanguageSession.Proofs.Client.Broad
import LanguageSession.Proofs.Registry

/-!
# What comes in the mail

A caller who waits for a response finds it in a mailbox.  In a world without callbacks no script
runs, and a completion comes into a mailbox only when a response is handled to a request that had
been registered with that mailbox.
-/

namespace LanguageSession

namespace Client

open Act

/-! ## Worlds without callbacks -/

/-- What is done in a world without callbacks. -/
structure Secluded (world : World) (added : List Entry) (world' : World) : Prop where
  grown : world'.journal.entries = world.journal.entries ++ added
  callbacks : world'.cast.callbacks = []
  unmarked : ∀ entry ∈ added, ¬ Marks entry
  announced : world'.session.ready = true →
    world.session.ready = true ∨ .emitted (.ready true) ∈ added

def Secludes (world world' : World) : Prop :=
  world.cast.callbacks = [] → ∃ added, Secluded world added world'

def World.Expects (world : World) (key : Json) (slot : Nat) : Prop :=
  (key, .mailbox slot) ∈ world.session.pending.entries

/-- The completion is that of a response that was expected at the mailbox. -/
def Posted (world : World) (added : List Entry) (slot : Nat) (completion : Completion) : Prop :=
  ∃ server message key, world.session.server = some server ∧ .handling server message ∈ added ∧
    Message.classify message = .response ∧ key.sameKey (message.member "id") = true ∧
    world.Expects key slot ∧ completion = Completion.ofResponse message

/-- As `Secluded`, and nobody begins to wait; there is mail only if output is `heard`. -/
structure Posting (heard : Prop) (world : World) (added : List Entry) (world' : World) : Prop
    extends Secluded world added world' where
  served : ∀ server, world'.session.server = some server → world.session.server = some server
  expected : ∀ key slot, world'.Expects key slot → world.Expects key slot
  mail : ∃ letters, world'.mail = world.mail ++ letters ∧
    ∀ letter ∈ letters, heard ∧ Posted world added letter.1 letter.2

def Posts (heard : Prop) (world world' : World) : Prop :=
  world.cast.callbacks = [] → ∃ added, Posting heard world added world'

section

variable {heard : Prop} {world world' world'' : World} {added later : List Entry}

theorem Secluded.refl (alone : world.cast.callbacks = []) : Secluded world [] world :=
  ⟨(List.append_nil _).symm, alone, by simp, .inl⟩

theorem Secluded.trans (first : Secluded world added world')
    (second : Secluded world' later world'') : Secluded world (added ++ later) world'' where
  grown := by rw [second.grown, first.grown, List.append_assoc]
  callbacks := second.callbacks
  unmarked := List.forall_mem_append.mpr ⟨first.unmarked, second.unmarked⟩
  announced ready := by
    rcases second.announced ready with before | now
    · exact (first.announced before).imp_right (List.mem_append_left _)
    · exact .inr (List.mem_append_right _ now)

instance : IsPreorder World Secludes where
  refl _ alone := ⟨[], .refl alone⟩
  trans _ _ _ first second alone := by
    obtain ⟨added, first⟩ := first alone
    obtain ⟨later, second⟩ := second first.callbacks
    exact ⟨added ++ later, first.trans second⟩

theorem Posted.mono {slot : Nat} {completion : Completion}
    (posted : Posted world added slot completion) (more : added ⊆ later) :
    Posted world later slot completion := by
  obtain ⟨server, message, key, served, handled, rest⟩ := posted
  exact ⟨server, message, key, served, more handled, rest⟩

theorem Posting.trans (first : Posting heard world added world')
    (second : Posting heard world' later world'') : Posting heard world (added ++ later) world'' where
  toSecluded := first.toSecluded.trans second.toSecluded
  served server served := first.served server (second.served server served)
  expected key slot expects := first.expected key slot (second.expected key slot expects)
  mail := by
    obtain ⟨letters, came, posted⟩ := first.mail
    obtain ⟨letters', came', posted'⟩ := second.mail
    refine ⟨letters ++ letters', by rw [came', came, List.append_assoc], ?_⟩
    refine List.forall_mem_append.mpr ⟨fun letter member => ?_, fun letter member => ?_⟩
    · obtain ⟨hears, posted⟩ := posted letter member
      exact ⟨hears, posted.mono (List.subset_append_left _ _)⟩
    · obtain ⟨hears, server, message, key, served, handled, response, same, expects, given⟩ :=
        posted' letter member
      exact ⟨hears, server, message, key, first.served server served,
        List.mem_append_right _ handled, response, same, first.expected key _ expects, given⟩

theorem posting_of_secluded (secluded : Secluded world added world')
    (server : world'.session.server = none ∨ world'.session.server = world.session.server)
    (waiting : ∀ entry ∈ world'.session.pending.entries,
      entry ∈ world.session.pending.entries ∨ entry.2 = .handshake)
    (mail : world'.mail = world.mail) : Posting heard world added world' where
  toSecluded := secluded
  served number served := by
    rcases server with nobody | same
    · rw [nobody] at served
      cases served
    · exact same ▸ served
  expected key slot expects := (waiting _ expects).resolve_right (by simp)
  mail := ⟨[], by rw [mail, List.append_nil], by simp⟩

theorem posting_of_journal (alone : world.cast.callbacks = [])
    (callbacks : world'.cast.callbacks = world.cast.callbacks)
    (journal : world'.journal = world.journal)
    (ready : world'.session.ready = world.session.ready)
    (server : world'.session.server = none ∨ world'.session.server = world.session.server)
    (waiting : world'.session.pending.entries ⊆ world.session.pending.entries)
    (mail : world'.mail = world.mail) : Posting heard world [] world' :=
  posting_of_secluded
    ⟨by rw [journal, List.append_nil], callbacks.trans alone, by simp, fun now => .inl (ready ▸ now)⟩
    server (fun _ member => .inl (waiting member)) mail

theorem posting_noting (alone : world.cast.callbacks = []) {entry : Entry}
    (unmarked : ¬ Marks entry) : Posting heard world [entry] (world.noting entry) :=
  posting_of_secluded ⟨rfl, alone, by simpa using unmarked, .inl⟩ (.inr rfl)
    (fun _ => .inl) rfl

theorem Reticent.unmarked {entry : Entry} (reticent : Reticent entry) : ¬ Marks entry := by
  cases entry <;> first | exact id | cases reticent

instance (heard : Prop) : IsPreorder World (Posts heard) where
  refl _ alone := ⟨[], posting_of_journal alone rfl rfl rfl (.inr rfl) (List.Subset.refl _) rfl⟩
  trans _ _ _ first second alone := by
    obtain ⟨added, first⟩ := first alone
    obtain ⟨later, second⟩ := second first.callbacks
    exact ⟨added ++ later, first.trans second⟩

instance (heard : Prop) : Broad (Posts heard) where
  noting _ _ reticent alone := ⟨_, posting_noting alone reticent.unmarked⟩
  serving _ _ alone :=
    ⟨[], posting_of_journal alone rfl rfl rfl (.inr rfl) (List.Subset.refl _) rfl⟩
  renewing _ _ ready server waiting alone :=
    ⟨[], posting_of_journal alone rfl rfl ready server waiting rfl⟩
  keeping _ _ journal session _ callbacks _ mail _ alone :=
    ⟨[], posting_of_journal alone callbacks journal (by rw [session]) (.inr (by rw [session]))
      (by rw [session]; exact List.Subset.refl _) mail⟩

theorem Posts.secludes (posts : Posts heard world world') : Secludes world world' := fun alone =>
  (posts alone).imp fun _ => Posting.toSecluded

theorem within_secludes {α : Type} {action : Act World α} (posts : Within (Posts True) action) :
    Within Secludes action := fun world => (posts world).mono fun _ _ => Posts.secludes

instance : Broad Secludes where
  noting world entry reticent :=
    (show Posts False _ _ from Broad.noting world entry reticent).secludes
  serving world servers := (show Posts False _ _ from Broad.serving world servers).secludes
  renewing world session ready server waiting :=
    (show Posts False _ _ from Broad.renewing world session ready server waiting).secludes
  keeping world world' journal session servers callbacks subscriptions mail spent :=
    (show Posts False _ _ from Broad.keeping world world' journal session servers callbacks
      subscriptions mail spent).secludes

theorem ensures_posts {α : Type} {action : Act World α}
    (posts : world.cast.callbacks = [] → Ensures action world fun _ => Posts heard world) :
    Ensures action world fun _ => Posts heard world := fun alone => posts alone alone

/-! ## Events -/

variable {nested : Nested}

theorem invoke_posts (who : Nat) (arguments : List Json) :
    Within (Posts heard) (invoke Step.operation nested.perform who arguments) := by
  refine fun world => ensures_posts fun alone => ?_
  simp only [invoke, ensures_bind, ensures_getCast, alone, List.getElem?_nil]
  exact refl_of (Posts heard) world

theorem tell_posts (listener : Listener) (event : Event) :
    Within (Posts heard) (tell nested listener event) := by
  cases listener with
  | callback who => exact invoke_posts who _
  | echo =>
      cases event with
      | log text => exact within_reticent trivial
      | _ => exact within_pure _
  | collect =>
      cases event with
      | diagnostics uri items => exact fun world alone =>
          ⟨[], posting_of_journal alone rfl rfl rfl (.inr rfl) (List.Subset.refl _) rfl⟩
      | _ => exact within_pure _

theorem emit_posts {event : Event} (noted : Posts heard world (world'.noting (.emitted event))) :
    Ensures (emit nested event) world' fun _ => Posts heard world :=
  ensures_emit_since noted fun listener _ middle _ => tell_posts listener event middle

/-- The session becomes ready, or ready no more, and that is told. -/
theorem setReady_posts (ready : Bool) : Within (Posts heard) (setReady nested ready) := by
  intro world
  have announced {middle : World} {notes : List Entry} (quiet : ∀ note ∈ notes, ¬ Marks note)
      (grown : middle.journal.entries = world.journal.entries ++ notes)
      (cast : middle.cast = world.cast) (now : middle.session.ready = ready)
      (server : middle.session.server = world.session.server)
      (waiting : middle.session.pending = world.session.pending)
      (mail : middle.mail = world.mail) :
      Posts heard world (middle.noting (.emitted (.ready ready))) := by
    intro alone
    refine ⟨notes ++ [.emitted (.ready ready)], posting_of_secluded ⟨?_, ?_, ?_, ?_⟩
      (.inr server) ?_ mail⟩
    · rw [noting_entries, grown, List.append_assoc]
    · rw [noting_cast, cast, alone]
    · exact List.forall_mem_append.mpr ⟨quiet, by simp [Marks]⟩
    · intro becomes
      obtain rfl : ready = true := now.symm.trans becomes
      exact .inr (by simp)
    · rw [noting_session, waiting]
      exact fun _ => .inl
  simp only [setReady, ensures_bind, ensures_getSession]
  split
  · exact refl_of (Posts heard) world
  · simp only [ensures_bind, ensures_modifySession]
    split
    · simp only [setPhase, ensures_bind, ensures_getSession]
      split
      · exact emit_posts (announced (by simp) (List.append_nil _).symm rfl rfl rfl rfl rfl)
      · exact emit_posts (announced (by simp [Marks]) rfl rfl rfl rfl rfl rfl)
    · exact emit_posts (announced (by simp) (List.append_nil _).symm rfl rfl rfl rfl rfl)

theorem posts_telling : Telling (Posts heard) nested where
  ends _ _ alone := ⟨_, posting_noting alone (by simp [Marks])⟩
  readied := setReady_posts true
  unreadied := setReady_posts false
  tells event other := by
    intro world
    refine emit_posts (Broad.noting world (.emitted event) ?_)
    cases event with
    | ready value => exact (other rfl).elim
    | _ => trivial

/-! ## Output of a server -/

theorem handshake_awaits : Awaits (Posts heard) .handshake := by
  refine awaits_of_awaited fun world id alone => ⟨[], posting_of_secluded
    ⟨(List.append_nil _).symm, alone, by simp, .inl⟩ (.inr rfl) (fun entry member => ?_) rfl⟩
  rcases Registry.mem_insert member with earlier | rfl | ⟨same, -⟩
  · exact .inl earlier
  · exact .inr rfl
  · exact .inr same

/-- A response is put into the mailbox where it was expected. -/
theorem posting_answer {server slot : Nat} {message key : Json}
    {before after : List (Json × Handler)} (alone : world.cast.callbacks = [])
    (served : world.session.server = some server)
    (response : Message.classify message = .response)
    (split : world.session.pending.entries = before ++ (key, .mailbox slot) :: after)
    (same : key.sameKey (message.member "id") = true) :
    Posting True world [.handling server message, .logged (Log.messageIn message)]
      { world.handling server message ⟨before ++ after⟩ with
        mail := world.mail ++ [(slot, Completion.ofResponse message)] } where
  grown := List.append_assoc _ _ _
  callbacks := alone
  unmarked := by simp [Marks]
  announced := .inl
  served _ := id
  expected key' slot' expects := by
    rw [World.Expects, split]
    rcases List.mem_append.mp (show (key', .mailbox slot') ∈ before ++ after from expects) with
      front | back
    · exact List.mem_append_left _ front
    · exact List.mem_append_right _ (List.mem_cons_of_mem _ back)
  mail := by
    refine ⟨_, rfl, List.forall_mem_singleton.mpr ⟨trivial, ?_⟩⟩
    refine ⟨server, message, key, served, by simp, response, same, ?_, rfl⟩
    rw [World.Expects, split]
    simp

theorem posts_answering
    (receives : ∀ server data, Within (Posts True) (nested.receive server data)) :
    Answering (Posts True) nested where
  toInforming := posts_telling.toInforming
  receives := receives
  opens := handshake_awaits
  answers world server message handler before key after served response split same other := by
    cases handler with
    | handshake => exact (other rfl).elim
    | mailbox slot =>
        exact fun alone => ⟨_, posting_answer alone served response split same⟩
    | callback who => exact (invoke_posts who _).later (handling_broad server message split)

theorem posts_keeping
    (receives : ∀ server data, Within (Posts True) (nested.receive server data)) :
    Keeping (Posts True) nested :=
  posts_telling.keeping (posts_answering receives).toHearing

theorem nestedCalls_post (depth : Nat) :
    ∀ server data, Within (Posts True) ((nestedCalls depth).receive server data) := by
  induction depth with
  | zero =>
      intro server data world
      refine (receiveTooDeep_arrives server data world).mono ?_
      rintro _ _ rfl
      exact Broad.noting world (.arrived server data) trivial
  | succ depth ih => exact (posts_answering ih).receive posts_telling

/-! ## Steps -/

/-- The step makes no callback. -/
def Step.Plain : Step → Prop
  | .request _ _ (some _) => False
  | .subscribe _ _ => False
  | _ => True

section

variable (receives : ∀ server data, Within (Posts True) (nested.receive server data))

include receives

theorem secludes_keeping : Keeping Secludes nested where
  ends _ _ alone := ⟨[_], rfl, alone, by simp [Marks], .inl⟩
  readied := within_secludes (setReady_posts true)
  unreadied := within_secludes (setReady_posts false)
  tells event other := within_secludes (posts_telling.tells event other)
  receives server data := within_secludes (receives server data)
  opens id := within_secludes (handshake_awaits id)

theorem secludes_acting : Acting Secludes nested where
  toHalting := (secludes_keeping receives).halting
  awaits handler := by
    refine awaits_of_awaited fun world id alone => ?_
    cases handler with
    | callback who => exact ⟨[_], rfl, alone, by simp [Marks], .inl⟩
    | _ => exact ⟨[], (List.append_nil _).symm, alone, by simp, .inl⟩
  completes handler completion other := by
    cases handler with
    | handshake => exact (other rfl).elim
    | mailbox slot => exact fun world alone => ⟨[], (List.append_nil _).symm, alone, by simp, .inl⟩
    | callback who => exact within_secludes (invoke_posts who _)

theorem performWith_secludes {step : Step} (plain : step.Plain) :
    Within Secludes (performWith nested step) := by
  have receives' (server : Nat) (data : Bytes) : Within Secludes (receive nested server data) :=
    within_secludes ((posts_answering receives).receive posts_telling server data)
  have nothing {world world' : World} (callbacks : world'.cast.callbacks = world.cast.callbacks)
      (journal : world'.journal = world.journal)
      (ready : world'.session.ready = world.session.ready) : Secludes world world' := fun alone =>
    ⟨[], by rw [journal, List.append_nil], callbacks.trans alone, by simp, fun now => .inl (ready ▸ now)⟩
  refine performWith_within (secludes_acting receives) ?_
  cases step with
  | start command arguments root =>
      refine (secludes_keeping receives).start (fun argv world alone => ?_) command arguments root
      exact ⟨[_], rfl, alone, by simp [Marks], .inl⟩
  | request method params handler =>
      cases handler with
      | none => trivial
      | some callback => cases plain
  | subscribe channel listener => cases plain
  | unsubscribe name => exact fun world channel listener => nothing rfl rfl rfl
  | send server message => exact receives'
  | raw server data => exact receives'
  | set server running change => exact fun world server => nothing rfl rfl rfl
  | setFactory change => exact fun world => nothing rfl rfl rfl
  | _ => trivial

/-! ## Requests -/

/-- There are no callbacks, and nobody has used a mailbox. -/
structure Unasked (world : World) : Prop where
  callbacks : world.cast.callbacks = []
  unexpected : ∀ key slot, ¬ world.Expects key slot
  mail : world.mail = []

omit receives in
theorem Unasked.posts (unasked : Unasked world) (posts : Posts heard world world') :
    Unasked world' := by
  obtain ⟨added, posting⟩ := posts unasked.callbacks
  obtain ⟨letters, came, posted⟩ := posting.mail
  refine ⟨posting.callbacks, fun key slot expects => ?_, ?_⟩
  · exact unasked.unexpected key slot (posting.expected key slot expects)
  · cases letters with
    | nil => rw [came, unasked.mail, List.append_nil]
    | cons letter rest =>
        obtain ⟨-, server, message, key, -, -, -, -, expects, -⟩ := posted letter List.mem_cons_self
        exact (unasked.unexpected key _ expects).elim

theorem start_unasked (unasked : Unasked world) (command : Text) (arguments : List Text)
    (root : Option Text) :
    Ensures (start nested command arguments root) world fun _ => Unasked := by
  have keeping : Keeping (Posts True) nested := posts_keeping receives
  have keeps {α : Type} {action : Act World α} (posts : Within (Posts True) action)
      (world : World) (unasked : Unasked world) : Ensures action world fun _ => Unasked :=
    (posts world).mono fun _ _ posts => unasked.posts posts
  rw [start_eq]
  refine Ensures.bind (keeps (keeping.stop _) _ unasked) fun _ _ unasked => ?_
  refine Ensures.bind (keeps (keeping.prepare _) _ unasked) fun _ _ unasked => ?_
  refine Ensures.bind ?_ fun server _ unasked => keeps (keeping.bringUp _ _ _ _) _ unasked
  exact (ensures_adoptServer _ _).mpr ⟨unasked.callbacks, unasked.unexpected, unasked.mail⟩

/-- A server was sent the request, and has responded to it with this result. -/
def Obtained (method : Text) (params result : Json) (entries : List Entry) : Prop :=
  ∃ before server id data after message,
    entries = before ++ .wrote server (Message.request (.nat id) method params) data :: after ∧
    .handling server message ∈ after ∧ Message.classify message = .response ∧
    (Json.nat id).sameKey (message.member "id") = true ∧ message.member? "error" = none ∧
    message.member "result" = result

omit receives in
theorem Obtained.since {method : Text} {params result : Json} {entries : List Entry}
    (obtained : Obtained method params result entries) (earlier : List Entry) :
    Obtained method params result (earlier ++ entries) := by
  obtain ⟨before, server, id, data, after, message, rfl, rest⟩ := obtained
  exact ⟨earlier ++ before, server, id, data, after, message, (List.append_assoc _ _ _).symm, rest⟩

/-- What has come for a request is what its server has responded. -/
def Fetched (method : Text) (params : Json) (entries : List Entry) (world : World) : Prop :=
  ∃ added, world.journal.entries = entries ++ added ∧
    ∀ letter ∈ world.mail, letter.2.error.isNull = true →
      Obtained method params letter.2.result added

/-- A request was written to its server, or was lost and nothing comes for it. -/
inductive Dispatched (method : Text) (params : Json) (entries : List Entry) (world : World) : Prop
  | lost (added : List Entry) (callbacks : world.cast.callbacks = []) (mail : world.mail = [])
      (grown : world.journal.entries = entries ++ added)
  | written (base : World) (before : List Entry) (server id : Nat) (data : Bytes)
      (callbacks : base.cast.callbacks = []) (mail : base.mail = [])
      (served : base.session.server = some server)
      (expects : ∀ key slot, base.Expects key slot → key.sameKey (.nat id) = true)
      (grown : base.journal.entries =
        entries ++ (before ++ [.wrote server (Message.request (.nat id) method params) data]))
      (posts : Posts True base world)

omit receives in
theorem ofResponse_accepted {message : Json}
    (accepted : (Completion.ofResponse message).error.isNull = true) :
    message.member? "error" = none ∧ (Completion.ofResponse message).result =
      message.member "result" := by
  unfold Completion.ofResponse at accepted ⊢
  cases found : message.member? "error" with
  | none => exact ⟨rfl, rfl⟩
  | some error =>
      simp only [found] at accepted
      split at accepted
      · next isObject => cases error <;> simp_all [Json.isNull, Json.isObject]
      · cases accepted

omit receives in
theorem Dispatched.fetched {method : Text} {params : Json} {entries : List Entry}
    (dispatched : Dispatched method params entries world) :
    Fetched method params entries world := by
  cases dispatched with
  | lost added callbacks mail grown => exact ⟨added, grown, by simp [mail]⟩
  | written base before server id data callbacks mail served expects grown posts =>
      obtain ⟨added, posting⟩ := posts callbacks
      obtain ⟨letters, came, posted⟩ := posting.mail
      refine ⟨before ++ .wrote server (Message.request (.nat id) method params) data :: added, ?_,
        fun letter member accepted => ?_⟩
      · rw [posting.grown, grown]
        simp
      · rw [came, mail, List.nil_append] at member
        obtain ⟨-, server', message, key, served', handled, response, same, waits, given⟩ :=
          posted letter member
        obtain rfl : server = server' := Option.some.inj (served.symm.trans served')
        rw [given] at accepted ⊢
        obtain ⟨errorless, result⟩ := ofResponse_accepted accepted
        exact ⟨before, server, id, data, added, message, rfl, handled, response,
          Json.sameKey_of_sameKey_nat (expects key _ waits) same, errorless, result.symm⟩

omit receives in
theorem Dispatched.since {method : Text} {params : Json} {entries : List Entry}
    (dispatched : Dispatched method params (entries ++ added) world) :
    Dispatched method params entries world := by
  cases dispatched with
  | lost later callbacks mail grown =>
      exact .lost (added ++ later) callbacks mail (by rw [grown, List.append_assoc])
  | written base before server id data callbacks mail served expects grown posts =>
      refine .written base (added ++ before) server id data callbacks mail served expects ?_ posts
      rw [grown]
      simp

omit receives in
theorem Posts.dispatched {method : Text} {params : Json} {entries : List Entry}
    (posts : Posts False world world') (callbacks : world.cast.callbacks = [])
    (mail : world.mail = []) (grown : world.journal.entries = entries ++ added) :
    Dispatched method params entries world' := by
  obtain ⟨later, posting⟩ := posts callbacks
  obtain ⟨letters, came, posted⟩ := posting.mail
  obtain rfl : letters = [] :=
    List.eq_nil_iff_forall_not_mem.mpr fun letter member => (posted letter member).1
  refine .lost (added ++ later) posting.callbacks (by rw [came, mail, List.append_nil]) ?_
  rw [posting.grown, grown, List.append_assoc]

theorem Dispatched.stopIfAborted {method : Text} {params : Json} {entries : List Entry}
    (dispatched : Dispatched method params entries world) :
    Ensures (stopIfAborted nested) world fun _ => Dispatched method params entries := by
  cases dispatched with
  | lost added callbacks mail grown =>
      cases aborted : world.session.abortRequested with
      | false =>
          rw [Ensures, stopIfAborted_idle nested (.inl aborted)]
          exact .lost added callbacks mail grown
      | true =>
          have silent : Telling (Posts False) nested := posts_telling
          exact (silent.stopIfAborted aborted).mono fun _ _ posts =>
            posts.dispatched callbacks mail grown
  | written base before server id data callbacks mail served expects grown posts =>
      have halting : Halting (Posts True) nested := (posts_keeping receives).halting
      refine ((stopIfAborted_within halting).later posts).mono fun _ _ posts => ?_
      exact .written base before server id data callbacks mail served expects grown posts

theorem writeMessage_dispatched {method : Text} {params : Json} {id : Nat} (data : Bytes)
    (callbacks : world.cast.callbacks = []) (mail : world.mail = [])
    (expects : ∀ key slot, world.Expects key slot → key.sameKey (.nat id) = true) :
    Ensures (writeMessage nested (Message.request (.nat id) method params) data) world
      fun _ => Dispatched method params world.journal.entries := by
  -- whatever happens, nothing comes for a message that no process was handed
  have lost {world' : World} (posts : Posts False world world') :
      Dispatched method params world.journal.entries world' :=
    posts.dispatched callbacks mail (List.append_nil _).symm
  cases served : world.session.server with
  | none =>
      rw [Ensures, writeMessage_unserved nested served]
      exact lost (refl_of (Posts False) world)
  | some server =>
      cases runs : (world.looking server).isRunning server with
      | false =>
          rw [Ensures, writeMessage_ended nested served runs]
          exact lost (looking_within world server)
      | true =>
          cases writeMessage_runs served runs with
          | refused reason goes =>
              have silent : Telling (Posts False) nested := posts_telling
              have complains : Within (Posts False) (complain nested reason) :=
                Within.bind (silent.emitLog _) fun _ => requestAbort_within
              have refused : Posts False world
                  (world.refusing server (Message.request (.nat id) method params)) :=
                trans_of (Posts False) (looking_within world server)
                  (trans_of (Posts False) (Broad.serving _ _)
                    (Broad.noting _ (.writeRefused server _) trivial))
              rw [Ensures, goes nested]
              exact (complains.later refused).mono fun _ _ => lost
          | taken replies goes =>
              have hears : Within (Posts True)
                  (hear nested server replies (Message.request (.nat id) method params) data) :=
                Within.bind (Within.forM fun reply _ => receives server reply) fun _ =>
                  record_broad _
              have written (after : World) (posts : Posts True
                  (world.accepting server (Message.request (.nat id) method params) data) after) :
                  Dispatched method params world.journal.entries after :=
                .written (world.accepting server _ data) [.looked server true] server id data
                  callbacks mail served expects (congrArg View.entries (view_accepting runs)) posts
              have heard := (hears _).mono fun _ after => written after
              rw [Ensures, goes nested]
              exact heard

/-! ## Requests that are waited for -/

omit receives in
/-- A session that cannot take requests says why. -/
theorem unavailable_error (world : World) : Ensures unavailable world fun ending _ =>
    ∀ error, ending = .ok (some error) → error.isNull = false := by
  have given (session : Session) (running : Bool) (world : World) : Ensures
      (return if !running then
          some (Message.error (.integer Message.serverNotInitialized) "LSP process not running.")
        else if !session.ready then
          some (Message.error (.integer Message.serverNotInitialized) "LSP server not initialized.")
        else none : Act World (Option Json)) world fun ending _ =>
      ∀ error, ending = .ok (some error) → error.isNull = false := by
    intro error same
    have same := Except.ok.inj same
    split_ifs at same <;> obtain rfl := Option.some.inj same <;> rfl
  simp only [unavailable, ensures_bind, ensures_getSession]
  split
  · split
    · exact given _ _ _
    · exact given _ _ _
  · exact given _ _ _

theorem sendRequest_dispatched (unasked : Unasked world) (method : Text) (params : Json)
    (slot : Nat) :
    Ensures (sendRequest nested method params (some (.mailbox slot))) world fun ending after =>
      Dispatched method params world.journal.entries after ∧
        ∀ error, ending = .ok (.error error) → after = world := by
  simp only [sendRequest, ensures_bind, ensures_getSession]
  split
  · exact ⟨.lost [] unasked.callbacks unasked.mail (List.append_nil _).symm, fun _ _ => rfl⟩
  · next data encodes =>
    simp only [ensures_bind, ensures_modifySession, ensures_await]
    generalize registered : World.awaited _ _ _ = waiting
    -- nobody waited before, so the mailbox waits for this request and no other
    have expects (key : Json) (slot' : Nat) (expects : waiting.Expects key slot') :
        key.sameKey (.nat world.session.nextId) = true := by
      rw [← registered] at expects
      rcases Registry.mem_insert expects with earlier | new | ⟨-, -, same⟩
      · exact (unasked.unexpected key slot' earlier).elim
      · obtain rfl := congrArg Prod.fst new
        simp
      · exact same
    have written : Ensures (writeMessage nested
        (Message.request (.nat world.session.nextId) method params) data) waiting
        fun _ => Dispatched method params waiting.journal.entries :=
      writeMessage_dispatched receives data (registered ▸ unasked.callbacks)
        (registered ▸ unasked.mail) expects
    refine written.mono fun ending after dispatched => ?_
    have dispatched : Dispatched method params world.journal.entries after := by
      rw [← registered] at dispatched
      exact dispatched
    cases ending with
    | ok value => exact ⟨dispatched, by rintro _ ⟨⟩⟩
    | error fault => exact ⟨dispatched, by rintro _ ⟨⟩⟩

theorem trySend_dispatched (unasked : Unasked world) (method : Text) (params : Json) (slot : Nat) :
    Ensures (trySend nested method params (some (.mailbox slot))) world fun ending after =>
      Dispatched method params world.journal.entries after ∧
        ∀ error, ending = .ok (.error error) → error.isNull = false ∧ after.mail = [] := by
  have asks : Within (Posts False) unavailable := unavailable_within
  rw [trySend, ensures_bind]
  refine ((asks world).and (unavailable_error world)).mono ?_
  rintro ending looked ⟨posts, refuses⟩
  have lost : Dispatched method params world.journal.entries looked :=
    posts.dispatched unasked.callbacks unasked.mail (List.append_nil _).symm
  have unasked' := unasked.posts posts
  cases ending with
  | error fault => exact ⟨lost, by rintro _ ⟨⟩⟩
  | ok refusal =>
      cases refusal with
      | some error =>
          refine ⟨lost, ?_⟩
          rintro _ ⟨⟩
          exact ⟨refuses _ rfl, unasked'.mail⟩
      | none =>
          dsimp only
          rw [ensures_bind]
          refine (sendRequest_dispatched receives unasked' method params slot).mono ?_
          rintro ending sent ⟨dispatched, unencodable⟩
          obtain ⟨added, posting⟩ := posts unasked.callbacks
          have dispatched : Dispatched method params world.journal.entries sent :=
            (posting.grown ▸ dispatched).since
          cases ending with
          | error fault => exact ⟨dispatched, by rintro _ ⟨⟩⟩
          | ok outcome =>
              cases outcome with
              | ok id => exact ⟨dispatched, by rintro _ ⟨⟩⟩
              | error error =>
                  obtain rfl := unencodable error rfl
                  have noted (note : Log.Record) : Posts False world (sent.noting (.logged note)) :=
                    trans_of (Posts False) posts (Broad.noting sent (.logged note) trivial)
                  refine ⟨(noted _).dispatched unasked.callbacks unasked.mail
                    (List.append_nil _).symm, ?_⟩
                  rintro _ ⟨⟩
                  exact ⟨rfl, unasked'.mail⟩

theorem request_fetched (unasked : Unasked world) (method : Text) (params : Json) (slot : Nat) :
    Ensures (request nested method params (some (.mailbox slot))) world
      fun _ => Fetched method params world.journal.entries := by
  unfold request
  rw [ensures_bind]
  refine (trySend_dispatched receives unasked method params slot).mono ?_
  rintro ending middle ⟨dispatched, refused⟩
  cases ending with
  | error fault => exact dispatched.fetched
  | ok sent =>
      cases sent with
      | ok id =>
          dsimp only
          rw [ensures_bind]
          refine (dispatched.stopIfAborted receives).mono fun ending _ dispatched => ?_
          cases ending with
          | ok value => exact dispatched.fetched
          | error fault => exact dispatched.fetched
      | error error =>
          obtain ⟨errs, mail⟩ := refused error rfl
          obtain ⟨added, grown, -⟩ := dispatched.fetched
          refine ⟨added, grown, fun letter member accepted => ?_⟩
          have letters : letter ∈ middle.mail ++ [(slot, Completion.failure error)] := member
          rw [mail, List.nil_append, List.mem_singleton] at letters
          rw [letters] at accepted
          exact absurd accepted (by simp [Completion.failure, errs])

omit receives in
theorem collectMail_finds (slot : Nat) (time : Duration) (world : World) :
    Ensures (collectMail slot time) world fun ending after => after = world ∧
      ∀ completion, ending = .ok (some completion) → (slot, completion) ∈ world.mail := by
  have finds : Ensures (lookForMail slot time) world fun ending after => after = world ∧
      ∀ completion, ending = .ok (some completion) → (slot, completion) ∈ world.mail := by
    unfold lookForMail
    rw [ensures_bind, ensures_ofExcept]
    cases time.toDouble.mapError Fault.time with
    | error fault => exact ⟨rfl, by rintro _ ⟨⟩⟩
    | ok seconds =>
        dsimp only
        rw [ensures_bind, ensures_get]
        dsimp only
        split
        · next completion found =>
          obtain ⟨before, after, split, -⟩ := List.lookup_eq_some_iff.mp found
          refine ⟨rfl, ?_⟩
          rintro _ ⟨⟩
          rw [split]
          simp
        · rw [ensures_bind, ensures_ofExcept]
          cases time.await.mapError Fault.time with
          | error fault => exact ⟨rfl, by rintro _ ⟨⟩⟩
          | ok waited => exact ⟨rfl, by rintro _ ⟨⟩⟩
  unfold collectMail
  dsimp only
  split
  · exact ⟨rfl, by rintro _ ⟨⟩⟩
  · exact finds

/-- A result that is not an error is what the server has responded to the request. -/
theorem requestSync_obtained (unasked : Unasked world) (method : Text) (params : Json)
    (timeout : Option Duration) :
    Ensures (requestSync nested method params timeout) world fun ending after =>
      ∀ completion, ending = .ok completion → completion.error.isNull = true →
        ∃ added, after.journal.entries = world.journal.entries ++ added ∧
          Obtained method params completion.result added := by
  have unasked' : Unasked { world with nextSlot := world.nextSlot + 1 } :=
    ⟨unasked.callbacks, unasked.unexpected, unasked.mail⟩
  simp only [requestSync, ensures_bind, ensures_get, ensures_modify]
  refine (request_fetched receives unasked' method params world.nextSlot).mono ?_
  rintro ending asked fetched
  cases ending with
  | error fault => rintro _ ⟨⟩
  | ok id =>
      dsimp only
      refine (collectMail_finds world.nextSlot _ asked).mono ?_
      rintro ending _ ⟨rfl, finds⟩
      cases ending with
      | error fault => rintro _ ⟨⟩
      | ok found =>
          cases found with
          | some completion =>
              rintro _ ⟨⟩ accepted
              obtain ⟨added, grown, obtained⟩ := fetched
              exact ⟨added, grown, obtained _ (finds _ rfl) accepted⟩
          | none =>
              simp only [ensures_bind, ensures_ofExcept]
              split
              · rintro _ ⟨⟩ ⟨⟩
              · rintro _ ⟨⟩

end

end

end Client

end LanguageSession
