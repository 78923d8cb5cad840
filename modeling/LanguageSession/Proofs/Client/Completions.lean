import Mathlib
import LanguageSession.Proofs.Client.Handlers

/-!
# What completes a request

A message completes a pending request when it has an id that is the same key as the number
of the request, and no method.  Only a text with a character in it is a method: a message
whose `method` is of another kind, or empty, is a response as well.
-/

namespace LanguageSession

namespace Client

open Act

/-! ## Methods and ids -/

/-- The member `method` is not a text with a character in it. -/
def Methodless (message : Json) : Prop :=
  ∀ character rest, message.member "method" ≠ .string (character :: rest)

/-- The values that are the same key as a number: the number itself, and a truth value. -/
inductive CountsAs (n : Nat) : Json → Prop
  | integer : CountsAs n (.integer n)
  | float (d : Double) (whole : d.toInt? = some (n : Int)) : CountsAs n (.float d)
  | truth (value : Bool) (same : n = if value then 1 else 0) : CountsAs n (.bool value)

theorem methodless_of_response {message : Json} (response : Message.classify message = .response) :
    Methodless message := by
  intro character rest method
  have named : Message.method? message = some (character :: rest) := by
    rw [Message.method?, method]
  simp only [Message.classify, named] at response
  split at response <;> cases response

theorem countsAs_of_sameKey {n : Nat} {id : Json} (same : (Json.nat n).sameKey id = true) :
    CountsAs n id := by
  cases id with
  | bool value =>
      simp only [Json.nat, Json.sameKey, Json.number?, decide_eq_true_eq, Json.Number.whole.injEq]
        at same
      refine .truth value ?_
      cases value <;> simp_all
  | integer value =>
      simp only [Json.nat, Json.sameKey, Json.number?, decide_eq_true_eq, Json.Number.whole.injEq]
        at same
      exact same ▸ .integer
  | float d =>
      simp only [Json.nat, Json.sameKey, Json.number?] at same
      cases whole : d.toInt? with
      | none => simp [whole] at same
      | some value =>
          simp only [whole, decide_eq_true_eq, Json.Number.whole.injEq] at same
          rw [← same] at whole
          exact .float d whole
  | null => simp [Json.nat, Json.sameKey, Json.number?] at same
  | string text => simp [Json.nat, Json.sameKey, Json.number?] at same
  | array items => simp [Json.nat, Json.sameKey, Json.number?] at same
  | object members => simp [Json.nat, Json.sameKey, Json.number?] at same
  | foreign kind => simp [Json.nat, Json.sameKey, Json.number?] at same

/-! ## Requests that are completed -/

/-- The message has what the response to request `n` has. -/
structure Completing (message : Json) (n : Nat) : Prop where
  response : Message.classify message = .response
  methodless : Methodless message
  id : CountsAs n (message.member "id")

/--
Handling the message takes nobody from those who wait, unless it completes the request of
one of them.
-/
def Discerns (nested : Nested) (world : World) (message : Json) : Prop :=
  (∃ n before handler after, Completing message n ∧
    world.session.pending.entries = before ++ (Json.nat n, handler) :: after) ∨
  (Message.classify message = .response →
    Ensures (Registry.resolve (complete nested) message) world fun ending world' =>
      world'.session = world.session ∧ ending ≠ .ok true)

theorem Sound.discerns {world : World} (sound : Sound world) (nested : Nested) (message : Json) :
    Discerns nested world message := by
  by_cases response : Message.classify message = .response
  · rcases Registry.take_cases world.session.pending (message.member "id") with
      ⟨fault, -, refused⟩ | missed | ⟨before, after, key, handler, split, same, -⟩
    · right
      intro _
      simp only [Registry.resolve, ensures_bind, ensures_getPending, ensures_ofExcept, refused]
      exact ⟨trivial, by simp⟩
    · right
      intro _
      simp only [Registry.resolve, ensures_bind, ensures_getPending, ensures_ofExcept, missed,
        record, ensures_write, ensures_pure]
      exact ⟨rfl, by simp⟩
    · left
      obtain ⟨ids, numbers, -⟩ := sound.numbered
      obtain ⟨n, -, rfl⟩ : ∃ n ∈ ids, Json.nat n = key := by
        rw [← List.mem_map, ← numbers, split]
        simp
      exact ⟨n, before, handler, after,
        ⟨response, methodless_of_response response, countsAs_of_sameKey same⟩, split⟩
  · exact .inr fun is_response => (response is_response).elim

/--
The handlers of requests are called with the messages that complete them, right after their
delivery.  In sound worlds, the only ones in which messages are handled, only such a message
completes a request, be it one of a handler, of a caller who waits or of the session itself.
-/
structure Completed (journal : List Entry) : Prop where
  called : ∀ before after callback id server name arguments,
    journal = before ++ .called callback "handler" name arguments :: after →
    .awaiting callback id server ∈ journal →
    ∃ earlier server message,
      before = earlier ++ [.handling server message, .logged (Log.messageIn message)] ∧
      Completing message id ∧ arguments = (Completion.ofResponse message).arguments
  discerning : ∀ world nested message, Sound world → Discerns nested world message

theorem Coherent.called_completing {before after : List Entry} {callback id : Nat}
    {server : Option Nat} {name : Text} {arguments : List Json}
    (coherent : Coherent (before ++ .called callback "handler" name arguments :: after))
    (awaiting : .awaiting callback id server ∈
      before ++ .called callback "handler" name arguments :: after) :
    ∃ earlier server message,
      before = earlier ++ [.handling server message, .logged (Log.messageIn message)] ∧
      Completing message id ∧ arguments = (Completion.ofResponse message).arguments := by
  obtain ⟨registered, since, writtenTo, current, message, answers⟩ :=
    coherent.answers_awaiting awaiting
  obtain ⟨earlier, delivered⟩ := answers.delivered
  refine ⟨registered ++ .awaiting callback id (some writtenTo) :: earlier, current, message,
    ?_, ?_, answers.arguments⟩
  · rw [answers.split, delivered]
    simp
  · exact ⟨answers.response, methodless_of_response answers.response,
      countsAs_of_sameKey answers.matches_id⟩

/-- In every run only messages without a method, under the number of a request, complete it. -/
theorem completions_of_run (settings : Settings) (factory : Conduct) (script : List Step) :
    Completed ((play { settings := settings, factory := factory } script).flatMap Turn.entries) := by
  have coherent := coherent_play settings factory script
  constructor
  · intro before after callback id server name arguments split awaiting
    rw [split] at coherent awaiting
    exact coherent.called_completing awaiting
  · exact fun world nested message sound => sound.discerns nested message

/-! ## A method that is no text -/

/-- Handlers are called only for messages without a method, whose id is not a truth value. -/
def CalledGenuinely (journal : List Entry) : Prop :=
  ∀ before after note callback name arguments server message,
    journal = before ++ .handling server message :: .logged note ::
      .called callback "handler" name arguments :: after →
    message.member "method" = .null ∧ ∀ value, message.member "id" ≠ .bool value

/-- A request is answered by a message whose method is the number 5. -/
def oddAnswer : List Step :=
  [.start "srv" [] none,
    .send none (.object [("id", .nat 1), ("result", .object [])]),
    .request "x" .null (some ⟨"handler", "h", [], none, false⟩),
    .send none (.object [("id", .nat 2), ("method", .nat 5), ("result", .nat 7)])]

/-- A handler is called for the message being handled, and that message has a method. -/
def callsOddly : List Entry → Bool
  | .handling _ message :: .logged _ :: .called _ kind _ _ :: _ =>
    kind = "handler" && !(message.member "method").isNull
  | _ => false

theorem callsOddly_eq_true {journal : List Entry} (odd : callsOddly journal = true) :
    ∃ server message note callback name arguments after,
      journal = .handling server message :: .logged note ::
        .called callback "handler" name arguments :: after ∧
      message.member "method" ≠ .null := by
  unfold callsOddly at odd
  split at odd
  · simp only [Bool.and_eq_true, decide_eq_true_eq, Bool.not_eq_true'] at odd
    obtain ⟨rfl, method⟩ := odd
    exact ⟨_, _, _, _, _, _, _, rfl, fun absent => by simp [absent, Json.isNull] at method⟩
  · cases odd

theorem oddAnswer_completes : ¬ CalledGenuinely ((play {} oddAnswer).flatMap Turn.entries) := by
  intro genuinely
  generalize same : (play {} oddAnswer).flatMap Turn.entries = journal at genuinely
  have called : callsOddly (journal.drop 23) = true := by
    rw [← same]
    decide +kernel
  have split := List.take_append_drop 23 journal
  obtain ⟨server, message, note, callback, name, arguments, after, rest, method⟩ :=
    callsOddly_eq_true called
  rw [rest] at split
  exact method (genuinely _ _ note callback name arguments server message split.symm).1

end Client

end LanguageSession
