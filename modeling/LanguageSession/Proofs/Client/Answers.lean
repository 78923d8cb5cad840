import Mathlib
import LanguageSession.Proofs.Client.Refusal
import LanguageSession.Proofs.Client.Roots

/-!
# Answers to the server

Every request of a server gets one answer, in the order of the requests, and nothing else is
answered.  The answer repeats the id of the request; if the id cannot be encoded, neither can
the answer, and the request is dropped.
-/

namespace LanguageSession

namespace Client

open Act

/-! ## What a request calls for -/

/-- The items that a request asks about. -/
def itemsAsked (message : Json) : List Json :=
  match (message.member "params").member "items" with
  | .array items => items
  | _ => []

def foldersOf (root : Text) : List Json :=
  if root = [] then [] else [.object [("uri", .string root), ("name", .literal "workspace")]]

/-- The result that a method has, if the client knows it. -/
def resultFor (root : Text) (message : Json) : Option Json :=
  match message.member "method" with
  | .string method =>
    if method ∈ Answer.acknowledged then some .null
    else if method = "workspace/configuration" then
      some (.array ((itemsAsked message).map fun _ => .object []))
    else if method = "workspace/workspaceFolders" then some (.array (foldersOf root))
    else none
  | _ => none

def calledFor (root : Text) (message : Json) : Json :=
  match resultFor root message with
  | some result =>
    .object [("jsonrpc", .literal "2.0"), ("id", message.member "id"), ("result", result)]
  | none =>
    .object [("jsonrpc", .literal "2.0"), ("id", message.member "id"),
      ("error", .object [("code", .integer (-32601)), ("message", .literal "Method not found")])]

/-- A request with an id that can be repeated. -/
def Answerable (message : Json) : Bool :=
  Message.classify message = .request && !(message.member "id").hasSurrogate

def answersTo (root : Text) (messages : List Json) : List Json :=
  (messages.filter Answerable).map (calledFor root)

def responsesIn (items : List (Json × Bool)) : List Json :=
  (items.map Prod.fst).filter fun message => Message.classify message = .response

theorem answersTo_append (root : Text) (messages later : List Json) :
    answersTo root (messages ++ later) = answersTo root messages ++ answersTo root later := by
  simp [answersTo]

theorem responsesIn_append (items later : List (Json × Bool)) :
    responsesIn (items ++ later) = responsesIn items ++ responsesIn later := by
  simp [responsesIn]

theorem method_of_request {message : Json} (request : Message.classify message = .request) :
    ∃ method, message.member "method" = .string method ∧ (message.member "id").isNull = false := by
  unfold Message.classify at request
  cases found : message.member "method" with
  | string method =>
      simp only [Message.method?, found] at request
      cases null : (message.member "id").isNull
      · exact ⟨method, rfl, rfl⟩
      · cases method <;> simp [null] at request
  | _ =>
      simp only [Message.method?, found] at request
      split at request <;> cases request

theorem reply_envelope {message : Json} {root : Text} {reply : Answer.Reply}
    (request : Message.classify message = .request)
    (replied : Answer.reply message root = .ok reply) : reply.envelope = calledFor root message := by
  obtain ⟨method, named, -⟩ := method_of_request request
  simp only [Answer.reply, named] at replied
  obtain rfl := Except.ok.inj replied
  have asked : ((message.member "params").member "items").array?.getD [] = itemsAsked message := by
    unfold itemsAsked
    cases (message.member "params").member "items" <;> rfl
  have acknowledged :
      (Answer.acknowledged.any fun name => decide ((Json.string method).text? = some name)) =
        decide (method ∈ Answer.acknowledged) := by
    simp [Json.text?, List.any_eq, eq_comm]
  have folders : Message.workspaceFolders (.string root) = .array (foldersOf root) := by
    cases root <;> rfl
  simp only [Answer.toMethod, acknowledged, Answer.configuration, asked, folders, calledFor,
    resultFor, named]
  simp only [Json.text?, Option.some.injEq, decide_eq_true_eq]
  split_ifs <;> rfl

theorem classify_of_members {envelope : Json} (method : envelope.member "method" = .null)
    (id : (envelope.member "id").isNull = false) : Message.classify envelope = .response := by
  simp [Message.classify, Message.method?, method, id]

theorem classify_calledFor {message : Json} (root : Text)
    (request : Message.classify message = .request) :
    Message.classify (calledFor root message) = .response := by
  obtain ⟨-, -, id⟩ := method_of_request request
  unfold calledFor
  split
  · exact classify_of_members rfl id
  · exact classify_of_members rfl id

theorem resultFor_plain {root : Text} {message result : Json} (plain : root.hasSurrogate = false)
    (known : resultFor root message = some result) :
    result.hasSurrogate = false ∧ result.Expressible := by
  have empty : Json.hasSurrogate (.object []) = false ∧ Json.Expressible (.object []) := ⟨rfl, rfl⟩
  have items (asked : List Json) :
      Json.itemsHaveSurrogate (asked.map fun _ => .object []) = false := by
    induction asked with
    | nil => rfl
    | cons item rest ih =>
        rw [List.map_cons, Json.itemsHaveSurrogate, empty.1, ih]
        rfl
  have folders : Json.hasSurrogate (.array (foldersOf root)) = false ∧
      Json.Expressible (.array (foldersOf root)) := by
    unfold foldersOf
    split
    · exact ⟨rfl, rfl⟩
    · constructor
      · simp [Json.hasSurrogate, Json.itemsHaveSurrogate, Json.membersHaveSurrogate, Json.literal,
          plain]
      · rfl
  unfold resultFor at known
  split at known
  · split_ifs at known
    · cases known
      exact ⟨rfl, rfl⟩
    · cases known
      exact ⟨items _, Json.expressible_array.mpr (by simp [empty.2])⟩
    · cases known
      exact folders
  · cases known

theorem hasSurrogate_calledFor {root : Text} (message : Json) (plain : root.hasSurrogate = false) :
    (calledFor root message).hasSurrogate = (message.member "id").hasSurrogate := by
  unfold calledFor
  split
  · next result known =>
    simp [Json.hasSurrogate, Json.membersHaveSurrogate, Json.literal,
      (resultFor_plain plain known).1]
  · simp [Json.hasSurrogate, Json.membersHaveSurrogate, Json.literal]

theorem hasSurrogate_of_id {message : Json} (root : Text)
    (surrogate : (message.member "id").hasSurrogate = true) :
    (calledFor root message).hasSurrogate = true := by
  unfold calledFor
  split <;> simp [Json.hasSurrogate, Json.membersHaveSurrogate, surrogate]

theorem expressible_member {value : Json} (expressible : value.Expressible) (name : Text) :
    (value.member name).Expressible := by
  unfold Json.member Json.member?
  split
  · next members =>
    cases found : members.lookup name with
    | none => rfl
    | some inner =>
        obtain ⟨before, later, rfl, -⟩ := List.lookup_eq_some_iff.mp found
        exact Json.expressible_object.mp expressible (name, inner) (by simp)
  · rfl

theorem expressible_calledFor {root : Text} {message : Json} (plain : root.hasSurrogate = false)
    (expressible : message.Expressible) : (calledFor root message).Expressible := by
  have id := expressible_member expressible "id"
  have version : Json.Expressible (.literal "2.0") := rfl
  have unknown : Json.Expressible (.object [("code", .integer (-32601)),
      ("message", .literal "Method not found")]) := rfl
  unfold calledFor
  split
  · next result known =>
    simpa [Json.expressible_object, version, (resultFor_plain plain known).2] using id
  · simpa [Json.expressible_object, version, unknown] using id

theorem calledFor_encodes {root : Text} {message : Json} (plain : root.hasSurrogate = false)
    (expressible : message.Expressible) :
    (∃ data, Frame.encode (calledFor root message) = .ok data) ↔
      (message.member "id").hasSurrogate = false := by
  rw [Frame.encode_eq_ok_iff (expressible_calledFor plain expressible),
    hasSurrogate_calledFor message plain]

theorem expressible_of_mem_messagesIn {stream : Bytes} {message : Json}
    (member : message ∈ messagesIn stream) : message.Expressible := by
  obtain ⟨payload, held, shown⟩ := List.mem_filterMap.mp member
  cases payload with
  | message value =>
      obtain rfl := Option.some.inj shown
      exact Frame.expressible_of_mem_cut held
  | _ => cases shown

/-! ## What a server is handed -/

def Hands (server : Nat) (items : List (Json × Bool)) (world world' : World) : Prop :=
  ∀ other, world'.told other = world.told other ++ if other = server then items else []

/-- The session rests again, with the same server and root, and the server got these responses. -/
structure GoesOn (server : Nat) (expected : List Json) (world world' : World) : Prop where
  rest : AtRest world'
  served : world'.session.server = world.session.server
  root : world'.session.root = world.session.root
  begins : world'.session.phase = .starting → world.session.phase = .starting
  ebbs : Ebbs world world'
  responses : ∃ items, Hands server items world world' ∧
    (world'.isRunning server = true → responsesIn items = expected)

/-- A message was not taken, and the session is to be ended. -/
structure BreaksOff (server : Nat) (world world' : World) : Prop where
  passive : Passive world'
  failing : Failing world'.session
  refused : ∃ items, Hands server items world world' ∧ ∃ message, (message, false) ∈ items

def Replies (server : Nat) (expected : List Json) (world world' : World) : Prop :=
  GoesOn server expected world world' ∨ BreaksOff server world world'

section

variable {nested : Nested} {world world' : World} {server : Nat}
variable {items items' : List (Json × Bool)} {expected expected' : List Json}

theorem Hands.trans {world'' : World} (before : Hands server items world world')
    (after : Hands server items' world' world'') :
    Hands server (items ++ items') world world'' := by
  intro other
  rw [after, before]
  split <;> simp

theorem Hushed.hands (hushed : Hushed world world') : Hands server [] world world' := by
  intro other
  rw [hushed.told, ite_self, List.append_nil]

theorem GoesOn.trans {world'' : World} (first : GoesOn server expected world world')
    (second : GoesOn server expected' world' world'') :
    GoesOn server (expected ++ expected') world world'' where
  rest := second.rest
  served := second.served.trans first.served
  root := second.root.trans first.root
  begins := first.begins ∘ second.begins
  ebbs := trans_of Ebbs first.ebbs second.ebbs
  responses := by
    obtain ⟨items, hands, same⟩ := first.responses
    obtain ⟨items', hands', same'⟩ := second.responses
    refine ⟨items ++ items', hands.trans hands', fun runs => ?_⟩
    rw [responsesIn_append, same (second.ebbs.running server runs), same' runs]

theorem GoesOn.replies {world'' : World} (first : GoesOn server expected world world')
    (second : Replies server expected' world' world'') :
    Replies server (expected ++ expected') world world'' := by
  rcases second with goes | breaks
  · exact .inl (first.trans goes)
  · obtain ⟨items, hands, -⟩ := first.responses
    obtain ⟨items', hands', message, refused⟩ := breaks.refused
    exact .inr ⟨breaks.passive, breaks.failing, items ++ items', hands.trans hands', message,
      List.mem_append_right _ refused⟩

theorem Replies.since {start : World} (replies : Replies server expected start world')
    (hushed : Hushed world start) (ebbs : Ebbs world start)
    (served : start.session.server = world.session.server)
    (root : start.session.root = world.session.root)
    (phase : start.session.phase = world.session.phase) : Replies server expected world world' := by
  rcases replies with goes | breaks
  · obtain ⟨items, hands, same⟩ := goes.responses
    exact .inl ⟨goes.rest, goes.served.trans served, goes.root.trans root, phase ▸ goes.begins,
      trans_of Ebbs ebbs goes.ebbs, _, hushed.hands.trans hands, same⟩
  · obtain ⟨items, hands, refused⟩ := breaks.refused
    exact .inr ⟨breaks.passive, breaks.failing, _, hushed.hands.trans hands, refused⟩

theorem goesOn_of_left (rest : AtRest world) (left : Left (fun _ => False) world world') :
    GoesOn server [] world world' where
  rest := ⟨left.passive, left.session ▸ rest.rest⟩
  served := by rw [left.session]
  root := by rw [left.session]
  begins := by rw [left.session]; exact id
  ebbs := left.ebbs
  responses := ⟨[], (left.hushed fun _ => False.elim).hands, fun _ => rfl⟩

variable (server) in
theorem goesOn_of_leaves {α : Type} {action : Act World α} (rest : AtRest world)
    (succeeds : Succeeds action) (leaves : Within Leaves action) :
    Ensures action world fun ending world' =>
      (∃ value, ending = .ok value) ∧ GoesOn server [] world world' :=
  (Succeeds.left succeeds leaves rest.passive).mono fun _ _ left =>
    ⟨left.1, goesOn_of_left rest left.2⟩

/-! ## Messages that the session writes -/

theorem talking_all : Talking fun _ => True where
  plain _ _ := trivial
  dropped := trivial
  serving _ := trivial
  ending _ := trivial
  wrote _ _ _ := trivial
  refused _ _ := trivial
  awaits _ _ _ := trivial

/-- A message is taken, or nothing is handed to a server that does not run, or it is refused. -/
theorem Delivered.cases {session : Session} {message : Json}
    (delivered : Delivered session message world world')
    (served : session.server = some server) (goes_on : session.abortRequested = false) :
    (world'.session = session ∧ ∃ items, Hands server items world world' ∧
      (world'.isRunning server = true → items = [(message, true)])) ∨
    (world'.session = { session with abortRequested := true } ∧
      Hands server [(message, false)] world world') := by
  cases delivered with
  | unheard same hushed ended =>
      refine .inl ⟨same, [], hushed.hands, fun runs => ?_⟩
      simp [ended server served] at runs
  | @heard heard accepted served' runs same told count =>
      obtain rfl := Option.some.inj (served.symm.trans served')
      cases accepted with
      | true =>
          refine .inl ⟨?_, _, told, fun _ => rfl⟩
          rw [same, goes_on, Bool.not_true, Bool.or_false, ← goes_on]
      | false => exact .inr ⟨by rw [same, Bool.not_false, Bool.or_true], told⟩

theorem writeMessage_replies {message : Json} (data : Bytes) (rest : AtRest world)
    (current : world.session.server = some server)
    (response : Message.classify message = .response) :
    Ensures (writeMessage nested message data) world fun ending world' =>
      ending = .ok () ∧ Replies server [message] world world' := by
  refine ((writeMessage_delivers message data rest.passive).and
    ((writeMessage_passive message data world rest.passive).and
      (ensures_noted (writeMessage_notes talking_all message data world) rest.passive))).mono ?_
  rintro _ world' ⟨delivered, ⟨⟨_, rfl⟩, passive, -⟩, tamed⟩
  refine ⟨rfl, ?_⟩
  rcases delivered.cases current rest.rest.abortRequested with ⟨same, items, hands, taken⟩ |
    ⟨same, hands⟩
  · left
    refine ⟨⟨passive, same ▸ rest.rest⟩, by rw [same], by rw [same], by rw [same]; exact id,
      tamed.ebbs, items, hands, fun runs => ?_⟩
    rw [taken runs]
    simp [responsesIn, response]
  · right
    refine ⟨passive, ?_, _, hands, message, List.mem_singleton_self _⟩
    rw [same]
    exact ⟨by simp [current], rest.rest.stopping, rfl⟩

theorem answersTo_singleton {root : Text} {message : Json}
    (request : Message.classify message = .request) : answersTo root [message] =
      if (message.member "id").hasSurrogate then [] else [calledFor root message] := by
  cases surrogate : (message.member "id").hasSurrogate <;>
    simp [answersTo, Answerable, request, surrogate]

theorem answerRequest_replies {message : Json} (request : Message.classify message = .request)
    (expressible : message.Expressible) (rest : AtRest world)
    (current : world.session.server = some server)
    (plain : world.session.root.hasSurrogate = false) :
    Ensures (answerRequest nested message) world fun ending world' => ending = .ok () ∧
      Replies server (answersTo world.session.root [message]) world world' := by
  obtain ⟨reply, replied⟩ := reply_of_request request world.session.root
  have envelope := reply_envelope request replied
  have encodes := calledFor_encodes plain expressible
  have sends {start : World} (rest : AtRest start) (current : start.session.server = some server) :
      Ensures (sendReply nested message reply.envelope) start fun ending world' => ending = .ok () ∧
        Replies server (answersTo world.session.root [message]) start world' := by
    rw [envelope, answersTo_singleton request]
    unfold sendReply
    split
    · next error encoded =>
      have dropped : (message.member "id").hasSurrogate = true := by
        by_contra plain
        obtain ⟨data, taken⟩ := encodes.mpr (Bool.eq_false_iff.mpr plain)
        simp [taken] at encoded
      rw [if_pos dropped]
      refine (goesOn_of_leaves server rest (record_succeeds _) (within_record _)).mono ?_
      rintro _ _ ⟨⟨_, rfl⟩, goes⟩
      exact ⟨rfl, .inl goes⟩
    · next data encoded =>
      rw [encodes.mp ⟨data, encoded⟩]
      exact writeMessage_replies data rest current (classify_calledFor _ request)
  unfold answerRequest
  rw [ensures_bind]
  simp only [ensures_getSession]
  rw [ensures_bind, ensures_ofExcept, replied]
  dsimp only
  split
  · rw [ensures_bind]
    refine (goesOn_of_leaves server rest (record_succeeds _) (within_record _)).mono ?_
    rintro _ noted ⟨⟨_, rfl⟩, goes⟩
    refine (sends goes.rest (goes.served.trans current)).mono ?_
    rintro _ world' ⟨ends, replies⟩
    exact ⟨ends, goes.replies replies⟩
  · exact sends rest current

/-! ## Messages that the session gets -/

/-- The server accepts the session: it is told so, and the session is open. -/
theorem finishHandshake_replies {completion : Completion} {session : Session}
    (accepts : completion.error.isEmpty = true) (rest : Rest session)
    (beginning : Beginning session) (current : session.server = some server)
    (passive : Passive world) (same : world.session = { session with pending := {} }) :
    Ensures (finishHandshake nested completion) world fun ending world' =>
      ending = .ok () ∧ Replies server [] world world' := by
  unfold finishHandshake
  rw [ensures_bind]
  simp only [ensures_modifySession, accepts, if_true, same]
  let begun : World := { world with session := { session with pending := {}, handshakeId := none } }
  have passive : Passive begun := passive.kept
  have sent : Ensures (sendNotification nested "initialized" (.object [])) begun fun ending sent =>
      (∃ value, ending = .ok (.ok value)) ∧ Tamed (fun _ => True) begun sent ∧
        Delivered begun.session opening begun sent := by
    refine ((sendNotification_delivers _ _ passive).and
      ((sendNotification_passive _ _ begun passive).and
        (ensures_noted (sendNotification_notes talking_all _ _ begun) passive))).mono ?_
    rintro (fault | (error | value)) sent ⟨delivered, -, tamed⟩
    · exact delivered.elim
    · obtain ⟨data, encoded⟩ := opening_encodes
      cases encoded.symm.trans delivered.2
    · exact ⟨⟨value, rfl⟩, tamed, delivered⟩
  rw [ensures_bind]
  refine Ensures.mono sent ?_
  rintro _ sent ⟨⟨_, rfl⟩, tamed, delivered⟩
  refine ((setReady_passive true tamed.passive).and
    (ensures_noted (setReady_notes hush_tame true sent) tamed.passive)).mono ?_
  rintro _ world' ⟨⟨rfl, passive, ready⟩, quiet⟩
  refine ⟨rfl, ?_⟩
  -- taken, the message opens the session; refused, it is to be ended
  rcases delivered.cases current rest.abortRequested with ⟨kept, items, hands, taken⟩ | ⟨kept, hands⟩
  · have opened : world'.session =
        { session with pending := {}, handshakeId := none, ready := true, phase := .ready } := by
      rw [ready, kept]
      simp [begun, beginning.ready]
    have hands : Hands server items world world' := by
      have both := hands.trans quiet.hushed.hands
      rwa [List.append_nil] at both
    left
    refine ⟨⟨passive, ?_⟩, by rw [opened, same], by rw [opened, same], ?_, ?_, items, hands, ?_⟩
    · rw [opened]
      exact ⟨.inr (.inr beginning.accepted), rest.stopping, rest.abortRequested⟩
    · rw [opened]
      rintro ⟨⟩
    · exact trans_of Ebbs (ebbs_of_servers rfl : Ebbs world begun) (trans_of Ebbs tamed.ebbs quiet.ebbs)
    · intro runs
      rw [taken (quiet.ebbs.running server runs)]
      rfl
  · right
    refine ⟨passive, ?_, [(opening, false)] ++ [], hands.trans quiet.hushed.hands, opening, by simp⟩
    rw [ready, kept]
    split <;> exact ⟨by simp [begun, current], rest.stopping, rfl⟩

/-- No response to `initialize` refuses the session. -/
def Welcomes (session : Session) (message : Json) : Prop :=
  session.phase = .starting → responds message (.nat 1) = true → message.member? "error" = none

theorem resolve_replies {message : Json} (rest : AtRest world)
    (current : world.session.server = some server) (hashable : Hashable message)
    (response : Message.classify message = .response) (welcomes : Welcomes world.session message) :
    Ensures (Registry.resolve (complete nested) message) world fun ending world' =>
      (∃ value, ending = .ok value) ∧ Replies server [] world world' := by
  simp only [Registry.resolve, ensures_bind, ensures_getPending, ensures_ofExcept]
  rcases Registry.take_cases world.session.pending (message.member "id") with
    ⟨fault, unhashable, -⟩ | missed | ⟨before, after, key, handler, split, same, taken⟩
  · simp [hashable response] at unhashable
  · rw [missed]
    refine (goesOn_of_leaves server rest (Succeeds.bind (record_succeeds _) fun _ =>
      succeeds_pure false) (Within.bind (within_record _) fun _ => within_pure _)).mono ?_
    exact fun _ _ goes => ⟨goes.1, .inl goes.2⟩
  · rw [taken]
    simp only [ensures_bind, ensures_setPending, ensures_pure]
    let taking : World :=
      { world with session := { world.session with pending := ⟨before ++ after⟩ } }
    have passive : Passive taking :=
      rest.passive.kept
    rcases rest.rest.waiting split with ⟨beginning, rfl, rfl, nobody⟩ | ⟨opened, other, still⟩
    · -- the response is for the session itself, which then waits for nothing
      have alone : taking.session = { world.session with pending := {} } := by
        simp only [taking, nobody]
      have answers : responds message (.nat 1) = true := by simp [responds, response, same]
      have accepts : (Completion.ofResponse message).error.isEmpty = true := by
        simp [Completion.ofResponse, welcomes beginning.phase answers, Json.isEmpty]
      have finishes : Ensures (finishHandshake nested (Completion.ofResponse message)) taking _ :=
        finishHandshake_replies accepts rest.rest beginning current passive alone
      rw [contain, ensures_tryCatch]
      refine finishes.mono ?_
      rintro _ world' ⟨rfl, replies⟩
      exact ⟨⟨true, rfl⟩, replies.since ⟨fun _ => rfl, rfl⟩ (ebbs_of_servers rfl) rfl rfl rfl⟩
    · have resting : AtRest taking := ⟨passive, still⟩
      have contained : Ensures (contain (complete nested handler (Completion.ofResponse message))
          (record (Log.handlerFailed (message.member "id")))) taking fun ending world' =>
            (∃ value, ending = .ok value) ∧ GoesOn server [] taking world' :=
        goesOn_of_leaves server resting (Succeeds.tryCatch fun _ => record_succeeds _)
          (Within.tryCatch (complete_leaves other _) fun _ => within_record _)
      refine contained.mono ?_
      rintro _ world' ⟨⟨_, rfl⟩, goes⟩
      have replies : Replies server [] taking world' := .inl goes
      exact ⟨⟨true, rfl⟩, replies.since ⟨fun _ => rfl, rfl⟩ (ebbs_of_servers rfl) rfl rfl rfl⟩

/-- A message gets its answer, if it is a request with an id that can be repeated. -/
theorem handleMessage_replies {message : Json} (rest : AtRest world)
    (current : world.session.server = some server) (plain : world.session.root.hasSurrogate = false)
    (hashable : Hashable message) (expressible : message.Expressible)
    (welcomes : Welcomes world.session message) :
    Ensures (handleMessage nested message) world fun ending world' => ending = .ok () ∧
      Replies server (answersTo world.session.root [message]) world world' := by
  unfold handleMessage
  rw [ensures_bind]
  refine (goesOn_of_leaves server rest (record_succeeds _) (within_record _)).mono ?_
  rintro _ noted ⟨⟨_, rfl⟩, goes⟩
  have current := goes.served.trans current
  have plain : noted.session.root.hasSurrogate = false := goes.root ▸ plain
  have welcomes : Welcomes noted.session message := fun starting => welcomes (goes.begins starting)
  have silent (other : Message.classify message ≠ .request) :
      answersTo world.session.root [message] = [] := by
    simp [answersTo, Answerable, other]
  cases kind : Message.classify message with
  | response =>
      rw [silent (by simp [kind])]
      dsimp only
      rw [ensures_bind]
      refine (resolve_replies goes.rest current hashable kind welcomes).mono ?_
      rintro _ world' ⟨⟨_, rfl⟩, replies⟩
      exact ⟨rfl, goes.replies replies⟩
  | request =>
      rw [← goes.root]
      refine (answerRequest_replies kind expressible goes.rest current plain).mono ?_
      rintro _ world' ⟨ends, replies⟩
      exact ⟨ends, goes.replies replies⟩
  | notification =>
      rw [silent (by simp [kind])]
      dsimp only
      split
      · refine (goesOn_of_leaves server goes.rest (emit_succeeds _) (emit_leaves _)).mono ?_
        rintro _ world' ⟨⟨_, rfl⟩, later⟩
        exact ⟨rfl, .inl (goes.trans later)⟩
      · exact ⟨rfl, .inl goes⟩
  | invalid =>
      rw [silent (by simp [kind])]
      refine (goesOn_of_leaves server goes.rest (record_succeeds _) (within_record _)).mono ?_
      rintro _ world' ⟨⟨_, rfl⟩, later⟩
      exact ⟨rfl, .inl (goes.trans later)⟩

theorem handleMessages_replies {messages : List Json} (rest : AtRest world)
    (current : world.session.server = some server) (plain : world.session.root.hasSurrogate = false)
    (hashable : ∀ message ∈ messages, Hashable message)
    (expressible : ∀ message ∈ messages, message.Expressible)
    (welcomes : ∀ message ∈ messages, Welcomes world.session message) :
    Ensures (handleMessages nested server messages) world fun ending world' => ending = .ok () ∧
      Replies server (answersTo world.session.root messages) world world' := by
  -- on the messages; the root does not change, so the answers are those expected
  induction messages generalizing world with
  | nil => exact ⟨rfl, .inl (goesOn_of_left rest (refl_of Leaves world rest.passive))⟩
  | cons message messages ih =>
      have noted : GoesOn server [] world (world.noting (.handling server message)) := by
        have passive : Passive (world.noting (.handling server message)) :=
          rest.passive.kept
        have hush : Hush (.handling server message) := trivial
        have hushed := hushed_noting hush world
        exact ⟨⟨passive, rest.rest⟩, rfl, rfl, id, ebbs_of_servers rfl, [], hushed.hands, fun _ => rfl⟩
      rw [ensures_handleMessages rest.rest.abortRequested current, ensures_bind,
        ← List.singleton_append, answersTo_append]
      refine (handleMessage_replies noted.rest current plain (hashable _ List.mem_cons_self)
        (expressible _ List.mem_cons_self) (welcomes _ List.mem_cons_self)).mono ?_
      rintro _ handled ⟨rfl, goes | breaks⟩
      · have goes := noted.trans goes
        have welcomes : ∀ other ∈ messages, Welcomes handled.session other := fun other member starting =>
          welcomes other (List.mem_cons_of_mem _ member) (goes.begins starting)
        have later : Ensures (handleMessages nested server messages) handled fun ending world' =>
            ending = .ok () ∧ Replies server (answersTo handled.session.root messages) handled world' :=
          ih goes.rest (goes.served.trans current) (goes.root ▸ plain)
            (fun other member => hashable other (List.mem_cons_of_mem _ member))
            (fun other member => expressible other (List.mem_cons_of_mem _ member)) welcomes
        rw [goes.root] at later
        refine later.mono ?_
        rintro _ world' ⟨ends, replies⟩
        exact ⟨ends, goes.replies replies⟩
      · -- After a message that was not taken the others are skipped.
        dsimp only
        rw [handleMessages_aborted messages breaks.failing.abortRequested]
        exact ⟨rfl, noted.replies (.inr breaks)⟩

/-! ## A chunk of output -/

theorem Adds.tells {kind : Entry → Prop} (adds : Adds kind world world') (server : Nat) :
    ∃ items, world'.told server = world.told server ++ items := by
  obtain ⟨added, grown, -⟩ := adds
  exact ⟨handed server added, by rw [World.told, grown, handed_append, World.told]⟩

/-- All requests of the chunk were answered, or a message was not taken. -/
def Repaid (server : Nat) (expected : List Json) (world : World) (ending : Except Fault Unit)
    (world' : World) : Prop :=
  (ending = .ok () ∧ ∃ items, Hands server items world world' ∧
    (world'.isRunning server = true → responsesIn items = expected)) ∨
  ∃ items, world'.told server = world.told server ++ items ∧ ∃ message, (message, false) ∈ items

theorem Replies.repaid (replies : Replies server expected world world') :
    Ensures (stopIfAborted nested) world' (Repaid server expected world) := by
  rcases replies with goes | breaks
  · rw [goes.rest.rest.unstopped]
    exact .inl ⟨rfl, goes.responses⟩
  · obtain ⟨items, hands, message, refused⟩ := breaks.refused
    have stops : Ensures (stopIfAborted nested) world' fun _ => Tamed (fun _ => True) world' :=
      ensures_noted (stopIfAborted_notes talking_all fun _ _ _ _ => trivial) breaks.passive
    refine stops.mono fun _ stopped tamed => ?_
    obtain ⟨more, told⟩ := tamed.adds.tells server
    have before := hands server
    rw [if_pos rfl] at before
    refine .inr ⟨items ++ more, ?_, message, List.mem_append_left _ refused⟩
    rw [told, before, List.append_assoc]

theorem receive_replies {data : Bytes} (rest : AtRest world)
    (current : world.session.server = some server) (plain : world.session.root.hasSurrogate = false)
    (readable : Readable world data)
    (welcomes : ∀ message ∈ messagesIn (world.session.buffer ++ data),
      Welcomes world.session message) :
    Ensures (receive nested server data) world (Repaid server
      (answersTo world.session.root (messagesIn (world.session.buffer ++ data))) world) := by
  let notes := (Frame.cut (world.session.buffer ++ data)).payloads.filterMap Frame.Payload.note?
  let buffer := (Frame.cut (world.session.buffer ++ data)).rest
  let begun := (world.reading server data buffer).recording notes
  have resting : AtRest begun := (rest.reading current data buffer).recording notes
  have hushed : Hushed world begun := by
    refine ⟨Adds.told ⟨.arrived server data :: notes.map .logged, ?_, ?_⟩, rfl⟩
    · simp [begun, World.recording, World.reading, World.noting]
    · simp [Hush]
  rw [ensures_receive current rest.rest.stopping, Frame.feed_of_incomplete readable.whole,
    handleFeed_messages, ensures_bind, ensures_records]
  dsimp only
  rw [ensures_bind]
  have handled : Ensures (handleMessages nested server _) begun fun ending world' =>
      ending = .ok () ∧ Replies server (answersTo begun.session.root _) begun world' :=
    handleMessages_replies resting current plain readable.hashable
      (fun message member => expressible_of_mem_messagesIn member) welcomes
  refine handled.mono ?_
  rintro _ world' ⟨rfl, replies⟩
  exact (replies.since hushed (ebbs_of_servers rfl) rfl rfl rfl).repaid

theorem recording_append (world : World) (notes later : List Log.Record) :
    (world.recording notes).recording later = world.recording (notes ++ later) := by
  simp [World.recording]

/-- Of a request with an id that cannot be repeated nothing comes but lines in the log. -/
theorem handleMessage_dropped {message : Json} (request : Message.classify message = .request)
    (surrogate : (message.member "id").hasSurrogate = true) :
    Ensures (handleMessage nested message) world fun ending world' =>
      ending = .ok () ∧ ∃ notes, world' = world.recording notes := by
  obtain ⟨reply, replied⟩ := reply_of_request request world.session.root
  obtain ⟨error, encoded⟩ : ∃ error, Frame.encode reply.envelope = .error error := by
    rw [reply_envelope request replied]
    exact Frame.encode_of_hasSurrogate (hasSurrogate_of_id world.session.root surrogate)
  have logs (start : World) (note : Log.Record) :
      start.noting (.logged note) = start.recording [note] := rfl
  unfold handleMessage
  rw [ensures_bind, record, ensures_write, add_eq_noting, request]
  dsimp only
  unfold answerRequest
  rw [ensures_bind]
  simp only [ensures_getSession, noting_session]
  rw [ensures_bind, ensures_ofExcept, replied]
  dsimp only
  rw [encoded]
  split
  · next note _ =>
    simp only [ensures_bind, record, ensures_write, add_eq_noting, logs, recording_append]
    exact ⟨trivial, _, rfl⟩
  · simp only [record, ensures_write, add_eq_noting, logs, recording_append]
    exact ⟨trivial, _, rfl⟩

end

/--
The requests in a chunk of output are answered in their order, each once and as its method and
its parameters call for, and no other server is told anything: as long as the server runs and
takes what is written, and does not refuse the session.  A request with an id that cannot be
repeated leaves nothing behind but lines in the log.
-/
theorem requests_answered {world : World} {server : Nat} {data : Bytes} (depth : Nat)
    (reached : ReachedPassively world) (current : world.session.server = some server)
    (readable : Readable world data)
    (welcomes : ∀ message ∈ messagesIn (world.session.buffer ++ data),
      Welcomes world.session message) :
    let messages := messagesIn (world.session.buffer ++ data)
    let last := turn (performWith (nestedCalls depth)) world (.raw (some server) data)
    (last.after.isRunning server = true → last.entries.any refusedWrite = false →
      last.outcome = .ok .null ∧
      responsesIn (handed server last.entries) = answersTo world.session.root messages ∧
      ∀ other ≠ server, handed other last.entries = []) ∧
    ∀ message, Message.classify message = .request →
      (message.member "id").hasSurrogate = true → ∀ world' : World,
        Ensures (handleMessage (nestedCalls depth) message) world' fun ending after =>
          ending = .ok () ∧ ∃ notes, after = world'.recording notes := by
  intro messages last
  have made : server < world.servers.length := by
    apply reached.reached.sound.servers
    apply serving_of_standing
    rw [reached.reached.sound.server, current]
  have grown : last.after.journal.entries = world.journal.entries ++ last.entries :=
    (turn_keeps (performWith_keeps depth (.raw (some server) data)) reached.reached.sound).2
  have told (other : Nat) : last.after.told other = world.told other ++ handed other last.entries := by
    rw [World.told, grown, handed_append, World.told]
  -- the turn is the reading of the chunk; its server was made, so it is not dropped
  have received : Ensures (performWith (nestedCalls depth) (.raw (some server) data)) world
      fun ending world' => ∃ ending', ending = ending'.map (fun _ => .null) ∧
        Repaid server (answersTo world.session.root messages) world ending' world' := by
    rw [ensures_raw made]
    have plain := reached.rooted (by simp [current])
    refine (receive_replies reached.atRest current plain readable welcomes).mono ?_
    exact fun ending _ repaid => ⟨ending, rfl, repaid⟩
  refine ⟨fun alive taken => ?_, fun message request surrogate world' => ?_⟩
  · obtain ⟨ending, outcome, ⟨rfl, items, hands, same⟩ | ⟨items, before, message, refused⟩⟩ := received
    · have given (other : Nat) : handed other last.entries = if other = server then items else [] :=
        List.append_cancel_left ((told other).symm.trans (hands other))
      refine ⟨outcome, ?_, fun other apart => by rw [given, if_neg apart]⟩
      rw [given, if_pos rfl]
      exact same alive
    · have given : handed server last.entries = items :=
        List.append_cancel_left ((told server).symm.trans before)
      rw [← given] at refused
      cases accepted_of_writes taken server _ refused
  · exact handleMessage_dropped request surrogate

def folderRequest : Json :=
  .object [("id", .nat 7), ("method", .literal "workspace/workspaceFolders")]

theorem folderRequest_portable : Frame.Portable folderRequest := by
  refine ⟨rfl, .object _ (by decide) ?_⟩
  simp only [List.mem_cons, List.not_mem_nil, or_false, forall_eq_or_imp, forall_eq]
  exact ⟨.integer _ (by decide +kernel), .string _⟩

def folderFrame : Bytes := (Frame.encode folderRequest).toOption.getD []

theorem messagesIn_folderFrame : messagesIn folderFrame = [folderRequest] :=
  messagesIn_frame folderRequest_portable (by decide +kernel)

/-- A server asks for the folders of a session that has none, before it has accepted it. -/
theorem requests_answered_early :
    let last := turn (performWith (nestedCalls 0)) greetedWorld (.raw (some 0) folderFrame)
    last.outcome = .ok .null ∧ responsesIn (handed 0 last.entries) =
      [.object [("jsonrpc", .literal "2.0"), ("id", .nat 7), ("result", .array [])]] := by
  have reached : ReachedPassively greetedWorld :=
    ⟨{}, {}, 0, [.start "srv" [] none], fun _ => rfl, by simp [Step.Passive], rfl⟩
  have fresh : greetedWorld.session.buffer = [] := by decide +kernel
  have root : greetedWorld.session.root = [] := by decide +kernel
  have messages : messagesIn (greetedWorld.session.buffer ++ folderFrame) = [folderRequest] := by
    rw [fresh, List.nil_append, messagesIn_folderFrame]
  have readable : Readable greetedWorld folderFrame := ⟨by decide +kernel, by decide +kernel⟩
  have welcomes : ∀ message ∈ messagesIn (greetedWorld.session.buffer ++ folderFrame),
      Welcomes greetedWorld.session message := by
    rw [messages]
    intro message member _
    rw [List.mem_singleton.mp member]
    rintro ⟨⟩
  have current : greetedWorld.session.server = some 0 := by decide +kernel
  obtain ⟨answers, -⟩ := requests_answered 0 reached current readable welcomes
  obtain ⟨outcome, responses, -⟩ := answers (by decide +kernel) (by decide +kernel)
  refine ⟨outcome, responses.trans ?_⟩
  rw [messages, root]
  rfl

end Client

end LanguageSession
