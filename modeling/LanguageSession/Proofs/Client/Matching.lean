import Mathlib
import LanguageSession.Proofs.Client.Sound
import LanguageSession.Proofs.Registry

/-!
# Which response is whose

A response belongs to the request whose id is the same key as its own.  Of several responses
to one request only the first counts, and a response to no request is nobody's.
-/

namespace LanguageSession

namespace Client

def responds (message id : Json) : Bool :=
  Message.classify message = .response && id.sameKey (message.member "id")

/-- The requests, each an id and a callback, to which none of the messages responds. -/
def unanswered (asked : List (Json × Nat)) (messages : List Json) : List (Json × Nat) :=
  asked.filter fun request => !messages.any fun message => responds message request.1

def call (callback : Nat) (message : Json) : Nat × List Json :=
  (callback, (Completion.ofResponse message).arguments)

/-- The calls that messages bring about, in the order of the messages. -/
def served : List (Json × Nat) → List Json → List (Nat × List Json)
  | _, [] => []
  | asked, message :: messages =>
    ((asked.find? fun request => responds message request.1).map fun request =>
      call request.2 message).toList ++ served (unanswered asked [message]) messages

@[simp] theorem unanswered_nil (asked : List (Json × Nat)) : unanswered asked [] = asked := by
  simp [unanswered]

theorem unanswered_append (asked : List (Json × Nat)) (messages later : List Json) :
    unanswered asked (messages ++ later) = unanswered (unanswered asked messages) later := by
  simp only [unanswered, List.filter_filter, List.any_append, Bool.not_or]
  exact List.filter_congr fun request _ => Bool.and_comm _ _

theorem mem_unanswered {asked : List (Json × Nat)} {messages : List Json} {request : Json × Nat} :
    request ∈ unanswered asked messages ↔
      request ∈ asked ∧ ∀ message ∈ messages, responds message request.1 = false := by
  simp [unanswered]

theorem unanswered_sublist (asked : List (Json × Nat)) (messages : List Json) :
    (unanswered asked messages).Sublist asked := List.filter_sublist

theorem served_append (asked : List (Json × Nat)) (messages later : List Json) :
    served asked (messages ++ later) =
      served asked messages ++ served (unanswered asked messages) later := by
  induction messages generalizing asked with
  | nil => simp [served]
  | cons message messages ih =>
      have same := unanswered_append asked [message] messages
      rw [List.singleton_append] at same
      simp [served, ih, same]

theorem mem_of_mem_served {asked : List (Json × Nat)} {messages : List Json}
    {told : Nat × List Json} (member : told ∈ served asked messages) :
    told.1 ∈ asked.map Prod.snd := by
  induction messages generalizing asked with
  | nil => simp [served] at member
  | cons message messages ih =>
      rcases List.mem_append.mp member with now | later
      · rw [Option.mem_toList, Option.map_eq_some_iff] at now
        obtain ⟨request, found, rfl⟩ := now
        exact List.mem_map_of_mem (List.mem_of_find?_eq_some found)
      · exact ((unanswered_sublist asked [message]).map Prod.snd).subset (ih later)

/-- No two requests have the same callback, and no message responds to two of them. -/
structure Distinct (asked : List (Json × Nat)) : Prop where
  callbacks : (asked.map Prod.snd).Nodup
  ids : ∀ message, ∀ first ∈ asked, ∀ second ∈ asked,
    responds message first.1 = true → responds message second.1 = true → first = second

theorem Distinct.sublist {asked fewer : List (Json × Nat)} (distinct : Distinct asked)
    (sublist : fewer.Sublist asked) : Distinct fewer where
  callbacks := distinct.callbacks.sublist (sublist.map Prod.snd)
  ids message first member second member' :=
    distinct.ids message first (sublist.subset member) second (sublist.subset member')

theorem Distinct.eq_of_callback {asked : List (Json × Nat)} (distinct : Distinct asked)
    {first second : Json × Nat} (member : first ∈ asked) (member' : second ∈ asked)
    (same : first.2 = second.2) : first = second :=
  List.inj_on_of_nodup_map distinct.callbacks member member' same

theorem Distinct.find_eq {asked : List (Json × Nat)} (distinct : Distinct asked)
    {request : Json × Nat} (member : request ∈ asked) {message : Json}
    (answers : responds message request.1 = true) :
    (asked.find? fun request => responds message request.1) = some request := by
  cases found : asked.find? fun request => responds message request.1 with
  | none => simp [List.find?_eq_none.mp found request member] at answers
  | some other =>
      have answers' := List.find?_some found
      rw [distinct.ids message other (List.mem_of_find?_eq_some found) request member answers'
        answers]

/-- A request is served by the first response to it, and by no other. -/
theorem served_to {asked : List (Json × Nat)} (distinct : Distinct asked) {request : Json × Nat}
    (member : request ∈ asked) (messages : List Json) :
    (served asked messages).filter (fun told => told.1 = request.2) =
      ((messages.find? fun message => responds message request.1).map (call request.2)).toList := by
  -- on the messages: the first response takes the request from those who wait, and a
  -- message that is none leaves it there
  induction messages generalizing asked with
  | nil => simp [served]
  | cons message messages ih =>
      have rest := unanswered_sublist asked [message]
      rw [served, List.filter_append]
      cases answers : responds message request.1 with
      | true =>
          have gone : (served (unanswered asked [message]) messages).filter
              (fun told => told.1 = request.2) = [] := by
            rw [List.filter_eq_nil_iff]
            intro told later
            have waits := mem_of_mem_served later
            obtain ⟨other, waits, same⟩ := List.mem_map.mp waits
            simp only [decide_eq_true_eq]
            intro same'
            have equal := distinct.eq_of_callback (rest.subset waits) member (same.trans same')
            have silent := (mem_unanswered.mp waits).2 message (by simp)
            rw [equal, answers] at silent
            cases silent
          rw [gone, distinct.find_eq member answers, List.find?_cons_of_pos (by simpa using answers)]
          simp [call]
      | false =>
          have waits : request ∈ unanswered asked [message] :=
            mem_unanswered.mpr ⟨member, by simpa using answers⟩
          rw [ih (distinct.sublist rest) waits,
            List.find?_cons_of_neg (by simp [answers])]
          have elsewhere : ((asked.find? fun request => responds message request.1).map
              fun request => call request.2 message).toList.filter
                (fun told => told.1 = request.2) = [] := by
            rw [List.filter_eq_nil_iff]
            intro told now
            rw [Option.mem_toList, Option.map_eq_some_iff] at now
            obtain ⟨other, found, rfl⟩ := now
            intro same
            have equal := distinct.eq_of_callback (List.mem_of_find?_eq_some found) member
              (of_decide_eq_true same)
            have answers' := List.find?_some found
            simp [equal, answers] at answers'
          rw [elsewhere, List.nil_append]

/-! ## Calls in a journal -/

/-- The call of a response handler, if the entry is one of those who asked. -/
def callTo? (asked : List (Json × Nat)) : Entry → Option (Nat × List Json)
  | .called callback kind _ arguments =>
    if kind = "handler" ∧ callback ∈ asked.map Prod.snd then some (callback, arguments) else none
  | _ => none

def callsOf (asked : List (Json × Nat)) (entries : List Entry) : List (Nat × List Json) :=
  entries.filterMap (callTo? asked)

theorem callTo?_eq_some {asked : List (Json × Nat)} {entry : Entry} {told : Nat × List Json} :
    callTo? asked entry = some told ↔
      told.1 ∈ asked.map Prod.snd ∧ ∃ name, entry = .called told.1 "handler" name told.2 := by
  obtain ⟨who, arguments⟩ := told
  cases entry with
  | called callback kind name given =>
      simp only [callTo?]
      constructor
      · intro same
        split at same
        · next asks =>
          cases same
          exact ⟨asks.2, name, by rw [asks.1]⟩
        · cases same
      · rintro ⟨asks, other, same⟩
        cases same
        rw [if_pos ⟨rfl, asks⟩]
  | _ => simp [callTo?]

@[simp] theorem callsOf_append (asked : List (Json × Nat)) (entries later : List Entry) :
    callsOf asked (entries ++ later) = callsOf asked entries ++ callsOf asked later :=
  List.filterMap_append

theorem mem_callsOf {asked : List (Json × Nat)} {entries : List Entry} {told : Nat × List Json} :
    told ∈ callsOf asked entries ↔
      told.1 ∈ asked.map Prod.snd ∧ ∃ name, .called told.1 "handler" name told.2 ∈ entries := by
  simp only [callsOf, List.mem_filterMap, callTo?_eq_some]
  constructor
  · rintro ⟨_, member, asks, name, rfl⟩
    exact ⟨asks, name, member⟩
  · rintro ⟨asks, name, member⟩
    exact ⟨_, member, asks, name, rfl⟩

/-- The calls of one of those who asked. -/
theorem callsOf_singleton {asked : List (Json × Nat)} {request : Json × Nat}
    (member : request ∈ asked) (entries : List Entry) :
    callsOf [request] entries = (callsOf asked entries).filter fun told => told.1 = request.2 := by
  have asks : request.2 ∈ asked.map Prod.snd := List.mem_map_of_mem member
  induction entries with
  | nil => rfl
  | cons entry entries ih =>
      simp only [callsOf, List.filterMap_cons] at ih ⊢
      cases entry with
      | called callback kind name arguments =>
          simp only [callTo?, List.map_cons, List.map_nil, List.mem_singleton]
          by_cases handles : kind = ("handler" : Text)
          · by_cases same : callback = request.2
            · simp [handles, same, asks, ih]
            · by_cases other : callback ∈ asked.map Prod.snd
              · simp [handles, same, other, ih]
              · simp [handles, same, other, ih]
          · simp [handles, ih]
      | _ => simpa [callTo?] using ih

end Client

end LanguageSession
