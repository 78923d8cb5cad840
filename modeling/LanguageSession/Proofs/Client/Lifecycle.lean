import Mathlib
import LanguageSession.Client.Scenario
import LanguageSession.Proofs.Text.Digits
import LanguageSession.Proofs.Text.Utf8

/-!
# The order of the messages to a server process

A process is greeted first, then the session is opened, and at last the process is told to
shut down and to exit.  In between there are answers to its requests and, once the session is
open, requests that are numbered one after the other and notes about documents.
-/

namespace LanguageSession

namespace Client

/-! ## What a process is handed -/

/-- The message that is handed to the process, and whether it was taken. -/
def handing (server : Nat) : Entry → Option (Json × Bool)
  | .wrote other message _ => if other = server then some (message, true) else none
  | .writeRefused other message => if other = server then some (message, false) else none
  | _ => none

def handed (server : Nat) (entries : List Entry) : List (Json × Bool) :=
  entries.filterMap (handing server)

@[simp] theorem handed_append (server : Nat) (entries later : List Entry) :
    handed server (entries ++ later) = handed server entries ++ handed server later :=
  List.filterMap_append

/-! ## The life of a session -/

def greeting (root : Json) : Json :=
  Message.request (.nat 1) "initialize" (Message.initializeParams root)

def opening : Json := Message.notification "initialized" (.object [])

def farewell (id : Nat) : Json := Message.request (.nat id) "shutdown" .null

def parting : Json := Message.notification "exit" .null

def IsAnswer (message : Json) : Prop :=
  ∃ request root reply, Message.classify request = .request ∧
    Answer.reply request root = .ok reply ∧ message = reply.envelope

def documentMethods : List Text :=
  ["textDocument/didOpen", "textDocument/didChange", "textDocument/didClose"]

def IsDocumentNote (message : Json) : Prop :=
  ∃ method ∈ documentMethods, ∃ params, message = Message.notification (.string method) params

/-- Messages of an open session, and the id of the next request. -/
inductive Traffic : List Json → Nat → Prop
  | nothing : Traffic [] 2
  | request {messages : List Json} {next : Nat} (earlier : Traffic messages next) (method : Text)
      (params : Json) :
      Traffic (messages ++ [Message.request (.nat next) (.string method) params]) (next + 1)
  | answer {messages : List Json} {next : Nat} {message : Json} (earlier : Traffic messages next)
      (answers : IsAnswer message) : Traffic (messages ++ [message]) next
  | document {messages : List Json} {next : Nat} {message : Json} (earlier : Traffic messages next)
      (tells : IsDocumentNote message) : Traffic (messages ++ [message]) next

/-- Until the process has accepted the session, only its requests are answered. -/
def Greets (messages : List Json) : Prop :=
  ∃ root answers, messages = greeting root :: answers ∧ ∀ message ∈ answers, IsAnswer message

/-- The session is open, and its next request has this id. -/
def Converses (messages : List Json) (next : Nat) : Prop :=
  ∃ greeted traffic, Greets greeted ∧ Traffic traffic next ∧
    messages = greeted ++ opening :: traffic

/-- All that a process is told, to the end. -/
def Whole (messages : List Json) : Prop :=
  ∃ said next, Converses said next ∧ messages = said ++ [farewell next, parting]

/--
The messages begin a whole life, and after one that was not taken there is none, but for the
last one of all.
-/
def FollowsLifecycle (items : List (Json × Bool)) : Prop :=
  ∃ whole, Whole whole ∧ items.map Prod.fst <+: whole ∧
    ∀ before message after, items = before ++ (message, false) :: after →
      after = [] ∨ after.length = 1 ∧ items.map Prod.fst = whole

/-! ## Ids -/

def requestId? (message : Json) : Option Json :=
  if message.hasMember "method" then message.member? "id" else none

theorem requestId?_request (id method params : Json) :
    requestId? (Message.request id method params) = some id := rfl

theorem requestId?_notification (method params : Json) :
    requestId? (Message.notification method params) = none := by
  cases params <;> rfl

theorem IsAnswer.requestId? {message : Json} (answers : IsAnswer message) :
    requestId? message = none := by
  obtain ⟨request, root, reply, -, replied, rfl⟩ := answers
  unfold Answer.reply at replied
  split at replied
  · cases replied
  · cases replied
  · obtain rfl := Except.ok.inj replied
    unfold Answer.toMethod
    dsimp only
    split
    · rfl
    · split
      · rfl
      · split <;> rfl

theorem Traffic.ids {messages : List Json} {next : Nat} (traffic : Traffic messages next) :
    2 ≤ next ∧ messages.filterMap requestId? = (List.range' 2 (next - 2)).map Json.nat := by
  induction traffic with
  | nothing => exact ⟨le_rfl, rfl⟩
  | @request messages next earlier method params ih =>
      obtain ⟨least, ids⟩ := ih
      refine ⟨by omega, ?_⟩
      have count : next + 1 - 2 = next - 2 + 1 := by omega
      have last : 2 + 1 * (next - 2) = next := by omega
      rw [List.filterMap_append, ids, count, List.range'_concat, List.map_append, last]
      rfl
  | answer earlier answers ih => simpa [answers.requestId?] using ih
  | document earlier tells ih =>
      obtain ⟨method, -, params, rfl⟩ := tells
      simpa [requestId?_notification] using ih

theorem Whole.ids {messages : List Json} (whole : Whole messages) :
    ∃ count, messages.filterMap requestId? = (List.range' 1 count).map Json.nat := by
  obtain ⟨said, next, ⟨greeted, traffic, ⟨root, answers, rfl, each⟩, told, rfl⟩, rfl⟩ := whole
  obtain ⟨least, ids⟩ := told.ids
  have silent : answers.filterMap requestId? = [] :=
    List.filterMap_eq_nil_iff.mpr fun message member => (each message member).requestId?
  obtain ⟨count, rfl⟩ : ∃ count, next = count + 2 := ⟨next - 2, by omega⟩
  have numbers : List.range' 1 (count + 2) = 1 :: (List.range' 2 count ++ [count + 2]) := by
    rw [List.range'_succ, List.range'_concat, Nat.one_mul, Nat.add_comm 2 count]
  refine ⟨count + 2, ?_⟩
  rw [numbers]
  simp [silent, ids, greeting, opening, farewell, parting, requestId?_request,
    requestId?_notification]

theorem FollowsLifecycle.ids {items : List (Json × Bool)} (follows : FollowsLifecycle items) :
    ∃ count, (items.map Prod.fst).filterMap requestId? = (List.range' 1 count).map Json.nat := by
  obtain ⟨whole, life, begins, -⟩ := follows
  obtain ⟨count, ids⟩ := life.ids
  have first := begins.filterMap requestId?
  rw [ids, List.prefix_iff_eq_take, ← List.map_take] at first
  generalize ((items.map Prod.fst).filterMap requestId?).length = length at first
  have taken : (List.range' 1 count).take length = List.range' 1 (min length count) :=
    List.ext_getElem (by simp) (by simp)
  exact ⟨_, taken ▸ first⟩

/-! ## Beginnings of a life -/

theorem Converses.whole {messages : List Json} {next : Nat} (converses : Converses messages next) :
    Whole (messages ++ [farewell next, parting]) := ⟨messages, next, converses, rfl⟩

theorem Greets.opened {messages : List Json} (greets : Greets messages) :
    Converses (messages ++ [opening]) 2 := ⟨messages, [], greets, .nothing, rfl⟩

structure Speaks (ready : Bool) (next : Nat) (items : List (Json × Bool)) : Prop where
  taken : ∀ item ∈ items, item.2 = true
  stage : if ready then Converses (items.map Prod.fst) next else Greets (items.map Prod.fst)

variable {ready : Bool} {next : Nat} {items : List (Json × Bool)} {message : Json}

theorem Speaks.whole (speaks : Speaks ready next items) :
    ∃ rest, Whole (items.map Prod.fst ++ rest) := by
  have stage := speaks.stage
  cases ready with
  | true => exact ⟨_, Converses.whole stage⟩
  | false =>
      have whole := (Greets.opened stage).whole
      rw [List.append_assoc] at whole
      exact ⟨_, whole⟩

theorem follows_nil : FollowsLifecycle [] := by
  have greets : Greets [greeting .null] := ⟨.null, [], rfl, by simp⟩
  exact ⟨_, greets.opened.whole, List.nil_prefix, by simp⟩

theorem length_lt_of_taken {later before after : List (Json × Bool)} {refused : Json}
    (taken : ∀ item ∈ items, item.2 = true)
    (same : items ++ later = before ++ (refused, false) :: after) : after.length < later.length := by
  have lengths := congrArg List.length same
  have found := congrArg (fun list => list[before.length]?) same
  simp only [List.length_append, List.length_cons] at lengths
  by_cases early : before.length < items.length
  · simp only [List.getElem?_append_left early, List.getElem?_append_right (Nat.le_refl _),
      Nat.sub_self, List.getElem?_cons_zero] at found
    simpa using taken _ (List.mem_of_getElem? found)
  · omega

theorem follows_of_whole {rest : List Json} (taken : ∀ item ∈ items, item.2 = true)
    (whole : Whole (items.map Prod.fst ++ message :: rest)) (accepted : Bool) :
    FollowsLifecycle (items ++ [(message, accepted)]) := by
  refine ⟨_, whole, ⟨rest, by simp⟩, fun before refused after same => .inl ?_⟩
  exact List.length_eq_zero_iff.mp (Nat.lt_one_iff.mp (length_lt_of_taken taken same))

theorem Speaks.follows (speaks : Speaks ready next (items ++ [(message, true)])) (accepted : Bool) :
    FollowsLifecycle (items ++ [(message, accepted)]) := by
  obtain ⟨rest, whole⟩ := speaks.whole
  rw [List.map_append, List.append_assoc] at whole
  exact follows_of_whole (fun item member => speaks.taken item (List.mem_append_left _ member))
    whole accepted

theorem Speaks.follows_farewell (speaks : Speaks true next items) (accepted : Bool) :
    FollowsLifecycle (items ++ [(farewell next, accepted)]) :=
  follows_of_whole speaks.taken (Converses.whole speaks.stage) accepted

theorem Speaks.follows_parting (speaks : Speaks true next items) (accepted ended : Bool) :
    FollowsLifecycle (items ++ [(farewell next, accepted), (parting, ended)]) := by
  have told : (items ++ [(farewell next, accepted), (parting, ended)]).map Prod.fst =
      items.map Prod.fst ++ [farewell next, parting] := by simp
  refine ⟨_, Converses.whole speaks.stage, by rw [told], fun before refused after same => ?_⟩
  have short : after.length < 2 := length_lt_of_taken speaks.taken same
  rw [told]
  cases after with
  | nil => exact .inl rfl
  | cons last rest =>
      rw [List.length_cons] at short ⊢
      exact .inr ⟨by omega, rfl⟩

/-! ## One message more -/

theorem Speaks.append {later : Nat} {stage : Bool} (speaks : Speaks ready next items)
    (goes_on : if stage then Converses (items.map Prod.fst ++ [message]) later
      else Greets (items.map Prod.fst ++ [message])) :
    Speaks stage later (items ++ [(message, true)]) where
  taken := by
    intro item member
    rcases List.mem_append.mp member with earlier | last
    · exact speaks.taken item earlier
    · rw [List.mem_singleton.mp last]
  stage := by simpa using goes_on

theorem speaks_greeting (root : Json) (next : Nat) :
    Speaks false next [(greeting root, true)] where
  taken := by simp
  stage := ⟨root, [], rfl, by simp⟩

theorem Speaks.opened (speaks : Speaks false next items) :
    Speaks true 2 (items ++ [(opening, true)]) :=
  speaks.append (Greets.opened speaks.stage)

theorem Converses.append {messages : List Json} {later : Nat} (converses : Converses messages next)
    (goes_on : ∀ traffic, Traffic traffic next → Traffic (traffic ++ [message]) later) :
    Converses (messages ++ [message]) later := by
  obtain ⟨greeted, traffic, greets, said, rfl⟩ := converses
  exact ⟨greeted, traffic ++ [message], greets, goes_on traffic said, by simp⟩

theorem Speaks.answer (speaks : Speaks ready next items) (answers : IsAnswer message) :
    Speaks ready next (items ++ [(message, true)]) := by
  refine speaks.append ?_
  have stage := speaks.stage
  cases ready with
  | true => exact Converses.append stage fun _ said => said.answer answers
  | false =>
      obtain ⟨root, earlier, said, each⟩ := stage
      refine ⟨root, earlier ++ [message], by rw [said, List.cons_append], ?_⟩
      simpa [or_imp, forall_and] using ⟨each, answers⟩

theorem Speaks.document (speaks : Speaks true next items) (tells : IsDocumentNote message) :
    Speaks true next (items ++ [(message, true)]) :=
  speaks.append (Converses.append speaks.stage fun _ said => said.document tells)

theorem Speaks.request (speaks : Speaks true next items) (method : Text) (params : Json) :
    Speaks true (next + 1)
      (items ++ [(Message.request (.nat next) (.string method) params, true)]) :=
  speaks.append (Converses.append speaks.stage fun _ said => said.request method params)

/-! ## Messages that are always sent -/

theorem opening_encodes : ∃ data, Frame.encode opening = .ok data := ⟨_, rfl⟩

theorem farewell_encodes (id : Nat) : ∃ data, Frame.encode (farewell id) = .ok data := by
  have foreign : (farewell id).firstForeign? = none := rfl
  have written : (farewell id).compact = "\x7b\"jsonrpc\":\"2.0\",\"id\":" ++ Text.ofNat id ++
      ",\"method\":\"shutdown\"\x7d" := rfl
  have plain (text : Text) (all : (text.all fun c => !c.isSurrogate) = true) :
      ∀ c ∈ text, c.isSurrogate = false := by
    simpa using all
  have whole : Utf8.findSurrogates (farewell id).compact = none := by
    rw [Utf8.findSurrogates_eq_none_iff, written]
    intro c member
    rcases List.mem_append.mp member with member | after
    · rcases List.mem_append.mp member with before | digit
      · exact plain _ (by decide) c before
      · obtain ⟨-, high⟩ := Text.isDecimal_of_mem_ofNat digit
        exact Utf8.isSurrogate_eq_false_iff.mpr (.inl (by omega))
    · exact plain _ (by decide) c after
  exact ⟨_, by rw [Frame.encode, foreign, Utf8.encode, whole]⟩

end Client

end LanguageSession
