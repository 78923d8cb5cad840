import Mathlib
import LanguageSession.Proofs.Client.Matching
import LanguageSession.Proofs.Client.Operations
import LanguageSession.Proofs.Client.Rest
import LanguageSession.Proofs.Frame.Chunks

/-!
# Responses reach their handlers

An open session reads the output of its server in chunks.  As long as nothing disturbs it,
the response handlers that wait are called as the messages that were read say, whatever
other traffic there is and whatever callbacks do.  A payload with too many values inside
each other stops the reading of its chunk, and the messages before it are lost with it.
-/

namespace LanguageSession

namespace Client

open Act

/-! ## Requests that wait -/

def requests (world : World) : List (Json × Nat) := callbacksIn world.session.pending.entries

theorem mem_callbacksIn {entries : List (Json × Handler)} {request : Json × Nat} :
    request ∈ callbacksIn entries ↔ (request.1, .callback request.2) ∈ entries := by
  simp only [callbacksIn, List.mem_filterMap]
  constructor
  · rintro ⟨⟨id, handler⟩, member, same⟩
    cases handler with
    | callback who =>
        obtain rfl : (id, who) = request := by simpa using same
        exact member
    | _ => cases same
  · intro member
    exact ⟨_, member, rfl⟩

theorem eq_of_sameKey_nat {first second : Nat} {id : Json} (same : (Json.nat first).sameKey id)
    (same' : (Json.nat second).sameKey id) : first = second := by
  have number (n : Nat) : (Json.nat n).number? = some (.whole n) := rfl
  cases id with
  | string text => simp [Json.nat, Json.sameKey, Json.number?] at same
  | null => simp [Json.nat, Json.sameKey, Json.number?] at same
  | array items => simp [Json.nat, Json.sameKey, Json.number?] at same
  | object members => simp [Json.nat, Json.sameKey, Json.number?] at same
  | foreign kind => simp [Json.nat, Json.sameKey, Json.number?] at same
  | bool value =>
      simp only [Json.nat, Json.sameKey, Json.number?, decide_eq_true_eq, Json.Number.whole.injEq]
        at same same'
      omega
  | integer n =>
      simp only [Json.nat, Json.sameKey, Json.number?, decide_eq_true_eq, Json.Number.whole.injEq]
        at same same'
      omega
  | float d =>
      simp only [Json.nat, Json.sameKey, Json.number?] at same same'
      cases whole : d.toInt? with
      | none => simp [whole] at same
      | some n =>
          simp only [whole, decide_eq_true_eq, Json.Number.whole.injEq] at same same'
          omega

theorem Numbered.keys_nodup {nextId : Nat} {entries : List (Json × Handler)}
    (numbered : Numbered nextId entries) : (entries.map Prod.fst).Nodup := by
  obtain ⟨ids, keys, sorted, -⟩ := numbered
  have injective : Function.Injective Json.nat := fun a b same => by
    simpa [Json.nat] using same
  rw [keys]
  exact List.Nodup.map injective (sorted.imp fun less => Nat.ne_of_lt less)

/-- An id is the key of one entry at most. -/
theorem Numbered.eq_of_sameKey {nextId : Nat} {entries : List (Json × Handler)}
    (numbered : Numbered nextId entries) {first second : Json × Handler} (member : first ∈ entries)
    (member' : second ∈ entries) {id : Json} (same : first.1.sameKey id)
    (same' : second.1.sameKey id) : first = second := by
  have nodup := numbered.keys_nodup
  obtain ⟨ids, keys, -⟩ := numbered
  have given {entry : Json × Handler} (member : entry ∈ entries) : ∃ id, Json.nat id = entry.1 := by
    have key : entry.1 ∈ ids.map Json.nat := keys ▸ List.mem_map_of_mem member
    obtain ⟨id, -, key⟩ := List.mem_map.mp key
    exact ⟨id, key⟩
  obtain ⟨a, key⟩ := given member
  obtain ⟨b, key'⟩ := given member'
  have equal : a = b := eq_of_sameKey_nat (key ▸ same) (key' ▸ same')
  exact List.inj_on_of_nodup_map nodup member member' (by rw [← key, ← key', equal])

section

variable {world world' : World}

theorem Sound.requests_callbacks (sound : Sound world) :
    (requests world).map Prod.snd = (standing world.journal.entries).waiting.map Waiting.callback := by
  rw [requests, sound.waiting, List.map_map]
  rfl

theorem Sound.distinct (sound : Sound world) : Distinct (requests world) where
  callbacks := by
    rw [sound.requests_callbacks]
    exact sound.coherent.waiting_nodup
  ids message first member second member' answers answers' := by
    simp only [responds, Bool.and_eq_true] at answers answers'
    have same := sound.numbered.eq_of_sameKey (mem_callbacksIn.mp member)
      (mem_callbacksIn.mp member') answers.2 answers'.2
    simp only [Prod.mk.injEq, Handler.callback.injEq] at same
    exact Prod.ext same.1 same.2

theorem Sound.not_called (sound : Sound world) {request : Json × Nat}
    (waits : request ∈ requests world) (kind name : Text) (arguments : List Json) :
    .called request.2 kind name arguments ∉ world.journal.entries := by
  have member : request.2 ∈ (requests world).map Prod.snd := List.mem_map_of_mem waits
  rw [sound.requests_callbacks] at member
  obtain ⟨waiting, waits, same⟩ := List.mem_map.mp member
  rw [← same]
  exact sound.coherent.not_called_of_waiting waits kind name arguments

theorem Steady.requests (steady : Steady world world') (sound : Sound world)
    (sound' : Sound world') : requests world <+: requests world' := by
  obtain ⟨newer, same⟩ := steady.waiting
  rw [Client.requests, Client.requests, sound.waiting, sound'.waiting, ← same, List.map_append]
  exact List.prefix_append _ _

end

/-! ## Reading -/

/-- The session reads the output of a server, and these requests wait among others. -/
structure Reading (server : Nat) (buffer : Bytes) (asked : List (Json × Nat)) (world : World) :
    Prop where
  sound : Sound world
  established : Established world
  server : world.session.server = some server
  buffer : world.session.buffer = buffer
  stopping : world.session.stopping = false
  abortRequested : world.session.abortRequested = false
  asked : asked <+: requests world

/-- Messages were handled: the requests were served as the messages say. -/
structure Took (server : Nat) (buffer : Bytes) (asked : List (Json × Nat)) (messages : List Json)
    (world world' : World) : Prop where
  reading : Reading server buffer (unanswered asked messages) world'
  served : ∃ added, world'.journal.entries = world.journal.entries ++ added ∧
    callsOf asked added = served asked messages

theorem callsOf_eq_nil {asked : List (Json × Nat)} {entries : List Entry}
    (silent : ∀ request ∈ asked, ∀ name arguments,
      .called request.2 "handler" name arguments ∉ entries) : callsOf asked entries = [] := by
  rw [List.eq_nil_iff_forall_not_mem]
  intro told member
  obtain ⟨asks, name, called⟩ := mem_callsOf.mp member
  obtain ⟨request, member, same⟩ := List.mem_map.mp asks
  exact silent request member name told.2 (same ▸ called)

section

variable {server : Nat} {buffer : Bytes} {asked : List (Json × Nat)} {world world' : World}

theorem Reading.distinct (reading : Reading server buffer asked world) : Distinct asked :=
  reading.sound.distinct.sublist reading.asked.sublist

/-- Whoever is called again was not answered before. -/
theorem mem_unanswered_of_called {messages : List Json} {before added : List Entry}
    (distinct : Distinct asked) (calls : callsOf asked added = served asked messages)
    {callback : Nat} {name : Text} {arguments : List Json} {after : List Entry}
    (coherent : Coherent (before ++ added ++ after))
    (called : .called callback "handler" name arguments ∈ after)
    (asks : callback ∈ asked.map Prod.snd) : callback ∈ (unanswered asked messages).map Prod.snd := by
  obtain ⟨request, member, rfl⟩ := List.mem_map.mp asks
  by_cases silent : ∀ message ∈ messages, responds message request.1 = false
  · exact List.mem_map_of_mem (mem_unanswered.mpr ⟨member, silent⟩)
  · exfalso
    push Not at silent
    obtain ⟨message, sent, answers⟩ := silent
    have first := served_to distinct member messages
    cases found : messages.find? fun message => responds message request.1 with
    | none => exact answers (by simpa using List.find?_eq_none.mp found message sent)
    | some message =>
        rw [found, ← calls] at first
        have told : call request.2 message ∈ callsOf asked added := by
          have member : call request.2 message ∈
              (callsOf asked added).filter fun told => told.1 = request.2 := by simp [first]
          exact List.mem_of_mem_filter member
        obtain ⟨-, other, earlier⟩ := mem_callsOf.mp told
        obtain ⟨between, later, rfl⟩ := List.append_of_mem called
        rw [← List.append_assoc] at coherent
        refine coherent.called_once other (call request.2 message).2 (List.mem_append_left _ ?_)
        exact List.mem_append_left _ (List.mem_append_right _ earlier)

/-- Those who have been answered are not called again. -/
theorem Took.append {messages later : List Json} {buffer' : Bytes} {world'' : World}
    (distinct : Distinct asked) (took : Took server buffer asked messages world world')
    (took' : Took server buffer' (unanswered asked messages) later world' world'') :
    Took server buffer' asked (messages ++ later) world world'' := by
  obtain ⟨added, grown, calls⟩ := took.served
  obtain ⟨added', grown', calls'⟩ := took'.served
  refine ⟨unanswered_append asked messages later ▸ took'.reading, added ++ added', ?_, ?_⟩
  · rw [grown', grown, List.append_assoc]
  · rw [callsOf_append, calls, served_append, ← calls']
    congr 1
    refine List.filterMap_congr fun entry member => ?_
    ext told
    rw [callTo?_eq_some, callTo?_eq_some]
    constructor
    · rintro ⟨asks, name, rfl⟩
      have coherent := took'.reading.sound.coherent
      rw [grown', grown] at coherent
      exact ⟨mem_unanswered_of_called distinct calls coherent member asks, name, rfl⟩
    · rintro ⟨asks, name, rfl⟩
      exact ⟨((unanswered_sublist asked messages).map Prod.snd).subset asks, name, rfl⟩

theorem server_of_calm {added : List Entry} (sound : Sound world) (sound' : Sound world')
    (grown : world'.journal.entries = world.journal.entries ++ added) (calm : Calm added) :
    world'.session.server = world.session.server := by
  rw [← sound.server, ← sound'.server, grown]
  exact standing_server_of_unserved fun server member => calm _ member trivial

theorem Reading.took {added : List Entry} (reading : Reading server buffer asked world)
    (sound' : Sound world') (grown : world'.journal.entries = world.journal.entries ++ added)
    (session : world'.session.server = world.session.server) (steady : Steady world world') :
    Took server buffer asked [] world world' := by
  have asked' := reading.asked.trans (steady.requests reading.sound sound')
  refine ⟨⟨sound', steady.established reading.established, session.trans reading.server,
    steady.buffer.trans reading.buffer, steady.stopping.trans reading.stopping,
    steady.abortRequested.trans reading.abortRequested, ?_⟩, added, grown, ?_⟩
  · rwa [unanswered_nil]
  · refine callsOf_eq_nil fun request member name arguments called => ?_
    refine sound'.not_called (asked'.subset member) "handler" name arguments ?_
    rw [grown]
    exact List.mem_append_right _ called

/-- Whatever settles serves nobody, unless it disturbs the session. -/
theorem Settles.took (settles : Settles world world')
    (reading : Reading server buffer asked world) :
    Disturbed world world' ∨ Took server buffer asked [] world world' := by
  obtain ⟨sound', grows, steady⟩ := settles reading.sound
  obtain ⟨added, grown⟩ := grows.journal
  by_cases calm : Calm added
  · right
    have session := server_of_calm reading.sound sound' grown.symm calm
    exact reading.took sound' grown.symm session (steady added grown.symm calm)
  · left
    simp only [Calm, not_forall, not_not] at calm
    obtain ⟨entry, member, disturbs⟩ := calm
    exact ⟨added, by rw [grown], entry, member, disturbs⟩

theorem Took.of_silent {message : Json} (took : Took server buffer asked [] world world')
    (silent : ∀ request ∈ asked, responds message request.1 = false) :
    Took server buffer asked [message] world world' := by
  have kept : unanswered asked [message] = asked := by
    rw [unanswered, List.filter_eq_self]
    intro request member
    simp [silent request member]
  have nobody : (asked.find? fun request => responds message request.1) = none := by
    rw [List.find?_eq_none]
    intro request member
    simp [silent request member]
  obtain ⟨reading, added, grown, calls⟩ := took
  rw [unanswered_nil] at reading
  refine ⟨kept.symm ▸ reading, added, grown, ?_⟩
  simp [calls, Client.served, nobody]

end

/-! ## Ending well -/

/-- What follows, unless something was disturbed before. -/
theorem ensures_bind_undisturbed {α β : Type} {first : Act World α} {next : α → Act World β}
    {world : World} {middle : α → World → Prop} {post : Except Fault β → World → Prop}
    (sound : Sound world) (keeps : Ensures first world fun _ => Keeps world)
    (keeps' : ∀ value, Within Keeps (next value))
    (begun : Ensures first world fun ending between =>
      Disturbed world between ∨ ∃ value, ending = .ok value ∧ middle value between)
    (later : ∀ value between, middle value between → Ensures (next value) between
      fun ending world' => Disturbed between world' ∨ post ending world') :
    Ensures (first >>= next) world fun ending world' => Disturbed world world' ∨ post ending world' := by
  have both : Ensures first world fun ending between => Keeps world between ∧
      (Disturbed world between ∨ ∃ value, ending = .ok value ∧ middle value between) :=
    ⟨keeps, begun⟩
  rw [ensures_bind]
  refine both.mono ?_
  rintro ending between ⟨kept, outcome⟩
  obtain ⟨sound, grows⟩ := kept sound
  rcases outcome with disturbed | ⟨value, rfl, reached⟩
  · cases ending with
    | error fault => exact .inl disturbed
    | ok value =>
        refine (keeps' value between).mono fun _ _ kept => .inl ?_
        exact disturbed.after (kept sound).2
  · refine (later value between reached).mono ?_
    rintro ending world' (disturbed | holds)
    · exact .inl (disturbed.before grows)
    · exact .inr holds

theorem ensures_before {α : Type} {action : Act World α} {world start : World}
    {post : Except Fault α → World → Prop} (grows : Grows world start)
    (holds : Ensures action start fun ending world' => Disturbed start world' ∨ post ending world') :
    Ensures action start fun ending world' => Disturbed world world' ∨ post ending world' :=
  holds.mono fun _ _ => Or.imp_left fun disturbed => disturbed.before grows

section

variable {nested : Nested} (orderly : Orderly nested)

include orderly

theorem replies_disturb (server : Nat) (reply : Bytes) (replies : List Bytes) {world : World}
    (sound : Sound world) : Ensures ((reply :: replies).forM (nested.receive server)) world
      fun _ => Disturbed world := by
  have first : Ensures (nested.receive server reply) world fun _ between => Settles world between ∧
      world.journal.entries ++ [.arrived server reply] <+: between.journal.entries :=
    ⟨orderly.receive server reply world, orderly.arrives server reply world sound⟩
  have later : Within Settles (replies.forM (nested.receive server)) :=
    Within.forM fun reply _ => orderly.receive server reply
  rw [List.forM, ensures_bind]
  refine first.mono ?_
  rintro ending between ⟨settles, arrived⟩
  have disturbed : Disturbed world between :=
    ⟨_, arrived, _, List.mem_singleton_self _, trivial⟩
  cases ending with
  | error fault => exact disturbed
  | ok _ =>
      refine (later between).mono fun _ _ moved => ?_
      exact disturbed.after (moved (settles sound).1).2.1

/-- Only output that arrives inside a write can make the write fail. -/
theorem deliver_ends (server : Nat) (message : Json) (data : Bytes) {world : World}
    (sound : Sound world) :
    Ensures (deliver nested server message data) world fun ending world' =>
      Disturbed world world' ∨ ∃ reason, ending = .ok reason := by
  simp only [deliver, ensures_bind, ensures_get]
  cases world.server? server with
  | none => exact .inr ⟨none, rfl⟩
  | some process =>
      simp only [ensures_bind, ensures_modify]
      cases process.conduct.refusesWrite process.writes with
      | some reason => exact .inr ⟨some reason, rfl⟩
      | none =>
          have moved : Within Settles (do
              modifyThe World (World.modifyServer server fun process =>
                { process with writes := process.writes + 1 })
              write (.wrote server message data)
              modifyThe World (World.modifyServer server fun process => process.accept message) :
                Act World Unit) := by
            refine Within.bind (modifyServer_settles _ _) fun _ => ?_
            exact Within.bind (fun _ => settles_idle trivial) fun _ => modifyServer_settles _ _
          have moved := moved world
          simp only [ensures_bind, ensures_write, add_eq_noting, ensures_modify] at moved ⊢
          obtain ⟨sound, grows, -⟩ := moved sound
          cases process.conduct.replies message with
          | nil => exact .inr ⟨none, rfl⟩
          | cons reply replies =>
              refine (replies_disturb orderly server reply replies sound).mono ?_
              intro ending world' disturbed
              have disturbed := disturbed.before grows
              cases ending with
              | ok _ => exact .inl disturbed
              | error fault => exact .inl disturbed

theorem writeMessage_ends (message : Json) (data : Bytes) {world : World} (sound : Sound world) :
    Ensures (writeMessage nested message data) world fun ending world' =>
      Disturbed world world' ∨ ending = .ok () := by
  simp only [writeMessage, ensures_bind, ensures_getSession]
  cases world.session.server with
  | none => exact .inr rfl
  | some server =>
      have looked : Ensures (look server) world fun _ => Settles world := look_within server world
      refine (look_succeeds server).ensures_bind looked ?_
      intro running looked moved
      obtain ⟨sound, grows, -⟩ := moved sound
      split
      · have aborts (reason : Text) : Act.Succeeds (do
            emitLog nested ("LSP process I/O error: " ++ reason)
            requestAbort : Act World Unit) :=
          Succeeds.bind (emitLog_succeeds _) fun _ => modifySession_succeeds _
        have delivered : Ensures (deliver nested server message data) looked fun ending between =>
            Disturbed looked between ∨ ∃ reason, ending = .ok reason ∧ True :=
          (deliver_ends orderly server message data sound).mono fun _ _ => by simp
        have keeps : Ensures (deliver nested server message data) looked fun _ => Keeps looked :=
          (deliver_settles orderly server message data sound).mono fun _ _ moved => moved.1.keeps
        refine ensures_before grows (ensures_bind_undisturbed sound keeps ?_ delivered ?_)
        · rintro (_ | reason)
          · exact within_keeps (within_record _)
          · refine Within.bind (within_keeps (emitLog_settles orderly.perform _)) fun _ => ?_
            exact requestAbort_keeps
        · rintro (_ | reason) between _
          · exact .inr rfl
          · obtain ⟨value, ends⟩ := aborts reason between
            exact .inr ends
      · exact .inr rfl

theorem answerRequest_ends {message : Json} (request : Message.classify message = .request)
    {world : World} (sound : Sound world) :
    Ensures (answerRequest nested message) world fun ending world' =>
      Disturbed world world' ∨ ending = .ok () := by
  have sent (envelope : Json) {start : World} (sound : Sound start) :
      Ensures (sendReply nested message envelope) start fun ending world' =>
        Disturbed start world' ∨ ending = .ok () := by
    unfold sendReply
    split
    · exact .inr rfl
    · exact writeMessage_ends orderly _ _ sound
  obtain ⟨reply, same⟩ := reply_of_request request world.session.root
  unfold answerRequest
  rw [ensures_bind]
  simp only [ensures_getSession]
  rw [ensures_bind, ensures_ofExcept, same]
  dsimp only
  split
  · next note _ =>
    have noted : Settles world (world.noting (.logged note)) := settles_idle trivial
    obtain ⟨sound, grows, -⟩ := noted sound
    rw [ensures_bind]
    simp only [record, ensures_write, add_eq_noting]
    exact ensures_before grows (sent reply.envelope sound)
  · exact sent reply.envelope sound

end

/-! ## Serving -/

section

variable {server : Nat} {buffer : Bytes} {asked : List (Json × Nat)} {world : World}
  {before after : List (Json × Handler)} {key : Json} {handler : Handler} {message : Json}

theorem callbacksIn_eq_self {entries : List (Json × Handler)}
    (others : ∀ entry ∈ entries, entry.1.sameKey (message.member "id") = false) :
    unanswered (callbacksIn entries) [message] = callbacksIn entries := by
  rw [unanswered, List.filter_eq_self]
  intro request member
  simp [responds, others _ (mem_callbacksIn.mp member)]

/-- Whoever is taken for a response leaves the others behind. -/
theorem requests_taking (sound : Sound world)
    (split : world.session.pending.entries = before ++ (key, handler) :: after)
    (response : Message.classify message = .response)
    (same : key.sameKey (message.member "id") = true) :
    requests (world.taking (before ++ after)) = unanswered (requests world) [message] := by
  have others : ∀ entry ∈ before ++ after, entry.1.sameKey (message.member "id") = false := by
    have nodup := sound.numbered.keys_nodup.of_map
    rw [split, List.nodup_middle, List.nodup_cons] at nodup
    intro entry member
    cases taken : entry.1.sameKey (message.member "id") with
    | false => rfl
    | true =>
        have present : entry ∈ world.session.pending.entries := by
          rw [split, List.mem_append, List.mem_cons]
          exact (List.mem_append.mp member).imp_right Or.inr
        have middle : (key, handler) ∈ world.session.pending.entries := by simp [split]
        have equal := sound.numbered.eq_of_sameKey present middle taken same
        exact (nodup.1 (equal ▸ member)).elim
  have taken : unanswered (callbacksIn [(key, handler)]) [message] = [] := by
    rw [unanswered, List.filter_eq_nil_iff]
    intro request member
    obtain ⟨rfl, -⟩ : request.1 = key ∧ Handler.callback request.2 = handler := by
      simpa using mem_callbacksIn.mp member
    simp [responds, response, same]
  have apart : callbacksIn (before ++ (key, handler) :: after) =
      callbacksIn before ++ (callbacksIn [(key, handler)] ++ callbacksIn after) := by
    rw [← callbacksIn_append, ← callbacksIn_append]
    rfl
  have before_kept := callbacksIn_eq_self fun entry member =>
    others entry (List.mem_append_left after member)
  have after_kept := callbacksIn_eq_self fun entry member =>
    others entry (List.mem_append_right before member)
  simp only [unanswered] at taken before_kept after_kept
  rw [requests, requests, split, apart, unanswered, List.filter_append, List.filter_append, taken,
    before_kept, after_kept, List.nil_append, ← callbacksIn_append]
  rfl

theorem Reading.entry (reading : Reading server buffer asked world) {request : Json × Nat}
    (member : request ∈ asked) : (request.1, .callback request.2) ∈ world.session.pending.entries :=
  mem_callbacksIn.mp (reading.asked.subset member)

theorem Reading.taking (reading : Reading server buffer asked world)
    (split : world.session.pending.entries = before ++ (key, handler) :: after)
    (response : Message.classify message = .response)
    (same : key.sameKey (message.member "id") = true) {entries : List Entry}
    (sound' : Sound { world.taking (before ++ after) with journal := ⟨entries⟩ }) :
    Reading server buffer (unanswered asked [message])
      { world.taking (before ++ after) with journal := ⟨entries⟩ } where
  sound := sound'
  established := reading.established.taking (Registry.sublist_of_split split)
  server := reading.server
  buffer := reading.buffer
  stopping := reading.stopping
  abortRequested := reading.abortRequested
  asked := by
    have left := requests_taking reading.sound split response same
    rw [requests] at left ⊢
    change unanswered asked [message] <+: callbacksIn (before ++ after)
    exact left.symm ▸ reading.asked.filter _

/-- A callback is called with the response to its request, if it is one of those who asked. -/
theorem Reading.called (reading : Reading server buffer asked world) {who : Nat}
    (split : world.session.pending.entries = before ++ (key, .callback who) :: after)
    (response : Message.classify message = .response)
    (same : key.sameKey (message.member "id") = true) (name : Text) :
    callsOf asked [.called who "handler" name (Completion.ofResponse message).arguments] =
      served asked [message] := by
  have middle : (key, .callback who) ∈ world.session.pending.entries := by simp [split]
  have waits : (key, who) ∈ requests world := mem_callbacksIn.mpr middle
  have answers : responds message key = true := by simp [responds, response, same]
  cases found : asked.find? fun request => responds message request.1 with
  | none =>
      have stranger : who ∉ asked.map Prod.snd := by
        intro asks
        obtain ⟨request, member, rfl⟩ := List.mem_map.mp asks
        have equal := reading.sound.distinct.eq_of_callback (reading.asked.subset member) waits rfl
        have silent := List.find?_eq_none.mp found request member
        rw [equal, answers] at silent
        exact silent rfl
      simp [callsOf, callTo?, served, found, stranger]
  | some request =>
      have member := List.mem_of_find?_eq_some found
      have answers' : responds message request.1 = true := by simpa using List.find?_some found
      have equal := reading.sound.distinct.ids message request (reading.asked.subset member)
        (key, who) waits answers' answers
      subst equal
      have asks : who ∈ asked.map Prod.snd := List.mem_map_of_mem member
      simp [callsOf, callTo?, served, found, asks, call]

theorem Took.settles {messages : List Json} {between world' : World}
    (took : Took server buffer asked messages world between) (distinct : Distinct asked)
    (grows : Grows world between) (settles : Settles between world') :
    Disturbed world world' ∨ Took server buffer asked messages world world' := by
  rcases settles.took took.reading with disturbed | later
  · exact .inl (disturbed.before grows)
  · right
    simpa using took.append distinct later

variable {nested : Nested} (orderly : Orderly nested)

include orderly

/-- Whoever waits for the response is told, and the failure of a handler goes no further. -/
theorem told_reads (id : Json) {earlier : List Entry} (reading : Reading server buffer asked world)
    (delivered : world.journal.entries =
      earlier ++ [.handling server message, .logged (Log.messageIn message)])
    (split : world.session.pending.entries = before ++ (key, handler) :: after)
    (response : Message.classify message = .response)
    (same : key.sameKey (message.member "id") = true) :
    Ensures (contain (complete nested handler (Completion.ofResponse message))
      (record (Log.handlerFailed id))) (world.taking (before ++ after)) fun ending world' =>
        ending = .ok () ∧
          (Disturbed world world' ∨ Took server buffer asked [message] world world') := by
  have middle : (key, handler) ∈ world.session.pending.entries := by simp [split]
  rw [contain, ensures_tryCatch]
  cases handler with
  | handshake => exact (reading.established (List.mem_map_of_mem middle)).elim
  | mailbox slot =>
      -- a mailbox waits under this id, so no callback does
      have nobody : (asked.find? fun request => responds message request.1) = none := by
        rw [List.find?_eq_none]
        intro request member answers
        simp only [responds, Bool.and_eq_true] at answers
        have equal := reading.sound.numbered.eq_of_sameKey (reading.entry member) middle
          answers.2 same
        cases equal
      have took : Took server buffer asked [message] world (world.taking (before ++ after)) := by
        refine ⟨reading.taking split response same ?_, [], ?_, ?_⟩
        · exact reading.sound.taking split (by simp)
        · simp [World.taking]
        · simp [callsOf, served, nobody]
      have grows : Grows world (world.taking (before ++ after)) :=
        ⟨List.prefix_rfl, List.prefix_rfl, rfl⟩
      exact ⟨rfl, took.settles reading.distinct grows (settles_of_core rfl rfl rfl rfl)⟩
  | callback who =>
      obtain ⟨number, callback, rfl, known, kind⟩ := reading.sound.registered middle
      have known' : (world.taking (before ++ after)).cast.callbacks[who]? = some callback := known
      rw [complete, ensures_invoke known']
      have sound' := reading.sound.answering split delivered reading.server response same known
      have took : Took server buffer asked [message] world
          ((world.taking (before ++ after)).noting (.called who callback.kind callback.name
            (Completion.ofResponse message).arguments)) := by
        refine ⟨reading.taking split response same sound', _, rfl, ?_⟩
        rw [kind]
        exact reading.called split response same callback.name
      have grows : Grows world ((world.taking (before ++ after)).noting (.called who callback.kind
          callback.name (Completion.ofResponse message).arguments)) :=
        ⟨List.prefix_append _ _, List.prefix_rfl, rfl⟩
      refine (proceed_settles orderly.perform who callback _ _).mono ?_
      intro ending ended moved
      cases ending with
      | ok _ => exact ⟨rfl, took.settles reading.distinct grows moved⟩
      | error fault =>
          refine ⟨rfl, took.settles reading.distinct grows (trans_of Settles moved ?_)⟩
          exact settles_idle (show Idle (.logged (Log.handlerFailed id)) from trivial)

theorem resolve_reads {earlier : List Entry} (reading : Reading server buffer asked world)
    (delivered : world.journal.entries =
      earlier ++ [.handling server message, .logged (Log.messageIn message)])
    (response : Message.classify message = .response)
    (hashable : (message.member "id").checkKey = .ok ()) :
    Ensures (Registry.resolve (complete nested) message) world fun ending world' =>
      (∃ found, ending = .ok found) ∧
        (Disturbed world world' ∨ Took server buffer asked [message] world world') := by
  simp only [Registry.resolve, ensures_bind, ensures_getPending, ensures_ofExcept]
  cases found : world.session.pending.entries.find? (fun entry =>
      entry.1.sameKey (message.member "id")) with
  | none =>
      rw [Registry.take_missed hashable found]
      have silent : ∀ request ∈ asked, responds message request.1 = false := by
        intro request member
        have other := List.find?_eq_none.mp found _ (reading.entry member)
        simpa [responds, response] using other
      have noted : Settles world
          (world.noting (.logged (Log.untrackedResponse (message.member "id")))) :=
        settles_idle trivial
      exact ⟨⟨false, rfl⟩, (noted.took reading).imp_right fun took => took.of_silent silent⟩
  | some entry =>
      obtain ⟨key, handler⟩ := entry
      obtain ⟨before, after, split, same, taken⟩ := Registry.take_found hashable found
      rw [taken]
      simp only [ensures_bind, ensures_setPending]
      refine (told_reads orderly (message.member "id") reading delivered split response same).mono ?_
      rintro _ told ⟨rfl, outcome⟩
      exact ⟨⟨true, rfl⟩, outcome⟩

end

/-! ## Messages -/

section

variable {server : Nat} {buffer : Bytes} {asked : List (Json × Nat)} {world : World}

theorem Reading.refl (reading : Reading server buffer asked world) :
    Took server buffer asked [] world world :=
  reading.took reading.sound (List.append_nil _).symm rfl (.refl world)

theorem Reading.noting (reading : Reading server buffer asked world) {entry : Entry}
    (idle : Idle entry) : Took server buffer asked [] world (world.noting entry) := by
  obtain ⟨sound', -, -⟩ := settles_idle idle reading.sound
  refine reading.took sound' rfl rfl ⟨id, rfl, rfl, rfl, ?_⟩
  rw [noting_entries, standing_snoc, idle.advance]

theorem Took.from {messages : List Json} {between world' : World}
    (took : Took server buffer asked [] world between) (distinct : Distinct asked)
    (later : Took server buffer asked messages between world') :
    Took server buffer asked messages world world' := by
  refine took.append distinct ?_
  rwa [unanswered_nil]

variable {nested : Nested} (orderly : Orderly nested)

include orderly

theorem handleMessage_reads {message : Json} {earlier : List Entry}
    (reading : Reading server buffer asked world)
    (delivered : world.journal.entries = earlier ++ [.handling server message])
    (hashable : Hashable message) :
    Ensures (handleMessage nested message) world fun ending world' => Disturbed world world' ∨
      ending = .ok () ∧ Took server buffer asked [message] world world' := by
  have noted := reading.noting (show Idle (.logged (Log.messageIn message)) from trivial)
  have grows : Grows world (world.noting (.logged (Log.messageIn message))) :=
    ⟨List.prefix_append _ _, List.prefix_rfl, rfl⟩
  have reading' : Reading server buffer asked (world.noting (.logged (Log.messageIn message))) :=
    unanswered_nil asked ▸ noted.reading
  -- what is no response serves nobody
  have silent {action : Act World Unit} (settles : Within Settles action)
      (ends : Ensures action (world.noting (.logged (Log.messageIn message))) fun ending world' =>
        Disturbed (world.noting (.logged (Log.messageIn message))) world' ∨ ending = .ok ())
      (other : Message.classify message ≠ .response) :
      Ensures action (world.noting (.logged (Log.messageIn message))) fun ending world' =>
        Disturbed world world' ∨
          ending = .ok () ∧ Took server buffer asked [message] world world' := by
    have both : Ensures action (world.noting (.logged (Log.messageIn message))) fun ending world' =>
        Settles (world.noting (.logged (Log.messageIn message))) world' ∧
          (Disturbed (world.noting (.logged (Log.messageIn message))) world' ∨ ending = .ok ()) :=
      ⟨settles _, ends⟩
    refine both.mono ?_
    rintro ending world' ⟨moved, disturbed | ends⟩
    · exact .inl (disturbed.before grows)
    · rcases moved.took reading' with disturbed | took
      · exact .inl (disturbed.before grows)
      · have nobody : ∀ request ∈ asked, responds message request.1 = false := by
          intro request _
          simp [responds, other]
        exact .inr ⟨ends, noted.from reading.distinct (took.of_silent nobody)⟩
  unfold handleMessage
  rw [ensures_bind]
  simp only [record, ensures_write, add_eq_noting]
  cases kind : Message.classify message with
  | response =>
      dsimp only
      rw [ensures_bind]
      have delivered' : (world.noting (.logged (Log.messageIn message))).journal.entries =
          earlier ++ [.handling server message, .logged (Log.messageIn message)] := by
        simp [delivered]
      refine (resolve_reads orderly reading' delivered' kind (hashable kind)).mono ?_
      rintro _ world' ⟨⟨found, rfl⟩, disturbed | took⟩
      · exact .inl (disturbed.before grows)
      · exact .inr ⟨rfl, noted.from reading.distinct took⟩
  | request =>
      exact silent (answerRequest_settles orderly message)
        (answerRequest_ends orderly kind reading'.sound) (by simp [kind])
  | notification =>
      dsimp only
      split
      · next event _ =>
        refine silent (emit_settles orderly.perform event) ?_ (by simp [kind])
        have succeeds : Succeeds (emit nested event) := emit_succeeds event
        obtain ⟨value, ends⟩ := succeeds (world.noting (.logged (Log.messageIn message)))
        exact .inr ends
      · exact silent (within_pure _) (.inr rfl) (by simp [kind])
  | invalid => exact silent (within_record _) (.inr rfl) (by simp [kind])

/-- Messages are handled one after the other, until the session is disturbed. -/
theorem handleMessages_reads {messages : List Json}
    (hashable : ∀ message ∈ messages, Hashable message)
    (reading : Reading server buffer asked world) :
    Ensures (handleMessages nested server messages) world fun ending world' =>
      Disturbed world world' ∨
        ending = .ok () ∧ Took server buffer asked messages world world' := by
  -- by induction on the messages; who waits changes with each of them, so `asked`
  -- is generalized
  induction messages generalizing asked world with
  | nil => exact .inr ⟨rfl, reading.refl⟩
  | cons message messages ih =>
      have noted := reading.noting (show Idle (.handling server message) from trivial)
      have grows : Grows world (world.noting (.handling server message)) :=
        ⟨List.prefix_append _ _, List.prefix_rfl, rfl⟩
      have reading' : Reading server buffer asked (world.noting (.handling server message)) :=
        unanswered_nil asked ▸ noted.reading
      have handled : Ensures (handleMessage nested message)
          (world.noting (.handling server message)) fun ending between =>
            Disturbed (world.noting (.handling server message)) between ∨
              ∃ value, ending = .ok value ∧ Took server buffer asked [message]
                (world.noting (.handling server message)) between := by
        refine (handleMessage_reads orderly reading' rfl
          (hashable message List.mem_cons_self)).mono ?_
        rintro ending between (disturbed | ⟨ends, took⟩)
        · exact .inl disturbed
        · exact .inr ⟨(), ends, took⟩
      have keeps := handleMessage_keeps orderly reading'.sound rfl reading'.server
      rw [handleMessages, ensures_bind]
      simp only [ensures_getSession, reading.abortRequested, reading.server, Bool.not_false,
        decide_true, Bool.and_self, if_true]
      rw [ensures_bind]
      simp only [ensures_write, add_eq_noting]
      refine ensures_before grows (ensures_bind_undisturbed reading'.sound keeps
        (fun _ => handleMessages_keeps orderly server messages) handled ?_)
      intro _ between took
      refine (ih (fun other member => hashable other (List.mem_cons_of_mem _ member))
        took.reading).mono ?_
      rintro ending world' (disturbed | ⟨ends, later⟩)
      · exact .inl disturbed
      · exact .inr ⟨ends, noted.from reading.distinct (took.append reading.distinct later)⟩

/-! ## Chunks -/

omit orderly in
/-- What goes before the messages of a chunk serves nobody. -/
theorem settled_bind {α β : Type} {first : Act World α} {next : α → Act World β}
    {post : Except Fault β → Prop} {messages : List Json} (succeeds : Succeeds first)
    (settles : Within Settles first) (keeps : ∀ value, Within Keeps (next value))
    (reading : Reading server buffer asked world)
    (later : ∀ value between, Reading server buffer asked between → Ensures (next value) between
      fun ending world' => Disturbed between world' ∨
        post ending ∧ Took server buffer asked messages between world') :
    Ensures (first >>= next) world fun ending world' => Disturbed world world' ∨
      post ending ∧ Took server buffer asked messages world world' := by
  have begun : Ensures first world fun ending between => Disturbed world between ∨
      ∃ value, ending = .ok value ∧ Took server buffer asked [] world between := by
    obtain ⟨value, ends⟩ := succeeds world
    exact ((settles world).took reading).imp_right fun took => ⟨value, ends, took⟩
  have kept : Ensures first world fun _ => Keeps world := within_keeps settles world
  refine ensures_bind_undisturbed reading.sound kept keeps begun ?_
  intro value between took
  refine (later value between (unanswered_nil asked ▸ took.reading)).mono ?_
  rintro ending world' (disturbed | ⟨holds, later⟩)
  · exact .inl disturbed
  · exact .inr ⟨holds, took.from reading.distinct later⟩

/-- How the handling of a chunk ends. -/
def feedOutcome (fed : Frame.Feed) : Except Fault Unit :=
  match fed.fault with
  | some fault => .error fault
  | none => .ok ()

theorem handleAll_reads {messages : List Json}
    (hashable : ∀ message ∈ messages, Hashable message)
    (reading : Reading server buffer asked world) :
    Ensures (do
      handleMessages nested server messages
      stopIfAborted nested : Act World Unit) world fun ending world' => Disturbed world world' ∨
        ending = .ok () ∧ Took server buffer asked messages world world' := by
  have handled : Ensures (handleMessages nested server messages) world fun ending between =>
      Disturbed world between ∨
        ∃ value, ending = .ok value ∧ Took server buffer asked messages world between := by
    refine (handleMessages_reads orderly hashable reading).mono ?_
    rintro ending between (disturbed | ⟨ends, took⟩)
    · exact .inl disturbed
    · exact .inr ⟨(), ends, took⟩
  refine ensures_bind_undisturbed reading.sound (handleMessages_keeps orderly server messages world)
    (fun _ => within_keeps (stopIfAborted_settles orderly)) handled ?_
  intro _ between took
  unfold stopIfAborted
  rw [ensures_bind]
  simp only [ensures_getSession, took.reading.abortRequested]
  exact .inr ⟨rfl, took⟩

theorem handleFeed_reads {fed : Frame.Feed} (lost : fed.fault.isSome → fed.messages = [])
    (hashable : ∀ message ∈ fed.messages, Hashable message)
    (reading : Reading server buffer asked world) :
    Ensures (handleFeed nested server fed) world fun ending world' => Disturbed world world' ∨
      ending = feedOutcome fed ∧ Took server buffer asked fed.messages world world' := by
  refine settled_bind (Succeeds.forM fun note => record_succeeds note)
    (Within.forM fun note _ => within_record note) (fun _ => handleRead_keeps orderly server fed)
    reading fun _ noted reading => ?_
  cases failed : fed.fault with
  | some fault =>
      have ends : feedOutcome fed = .error fault := by simp [feedOutcome, failed]
      rw [lost (by simp [failed]), ends]
      exact .inr ⟨rfl, reading.refl⟩
  | none =>
      have ends : feedOutcome fed = .ok () := by simp [feedOutcome, failed]
      rw [ends]
      dsimp only
      split
      · exact settled_bind (emitLog_succeeds _) (emitLog_settles orderly.perform _)
          (fun _ => handleAll_keeps orderly server fed.messages) reading
          fun _ _ reading => handleAll_reads orderly hashable reading
      · exact handleAll_reads orderly hashable reading

omit orderly in
theorem feed_lost (data : Bytes) :
    (Frame.feed buffer data).fault.isSome → (Frame.feed buffer data).messages = [] := by
  simp only [Frame.feed]
  split <;> simp

/-- A chunk is read, and its messages are handled. -/
theorem receive_reads {data : Bytes} (hashable :
      ∀ message ∈ (Frame.feed buffer data).messages, Hashable message)
    (reading : Reading server buffer asked world) :
    Ensures (receive nested server data) world fun ending world' =>
      Disturbed (world.noting (.arrived server data)) world' ∨
        ending = feedOutcome (Frame.feed buffer data) ∧
          Took server (Frame.feed buffer data).buffer asked (Frame.feed buffer data).messages
            world world' := by
  have noted := reading.noting (show Idle (.arrived server data) from trivial)
  have reading' : Reading server buffer asked (world.noting (.arrived server data)) :=
    unanswered_nil asked ▸ noted.reading
  have fed : Reading server (Frame.feed buffer data).buffer asked
      { world.noting (.arrived server data) with
        session := { world.session with buffer := (Frame.feed buffer data).buffer } } :=
    { reading' with sound := reading'.sound.of_core rfl, buffer := rfl }
  have grows : Grows (world.noting (.arrived server data))
      { world.noting (.arrived server data) with
        session := { world.session with buffer := (Frame.feed buffer data).buffer } } :=
    ⟨List.prefix_rfl, List.prefix_rfl, rfl⟩
  unfold receive
  rw [ensures_bind, ensures_write, add_eq_noting]
  dsimp only
  rw [ensures_bind, ensures_getSession]
  have current : (decide (world.session.server = some server) && !world.session.stopping) = true := by
    simp [reading.server, reading.stopping]
  dsimp only [noting_session]
  rw [if_pos current, reading.buffer, ensures_bind, ensures_modifySession]
  refine (handleFeed_reads orderly (feed_lost data) hashable fed).mono ?_
  rintro ending world' (disturbed | ⟨ends, took⟩)
  · exact .inl (disturbed.before grows)
  · obtain ⟨reading, added, grown, calls⟩ := took
    refine .inr ⟨ends, reading, .arrived server data :: added, ?_, ?_⟩
    · simp [grown]
    · exact calls

end

end Client

end LanguageSession
