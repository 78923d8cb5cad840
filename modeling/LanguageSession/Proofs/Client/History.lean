import Mathlib
import LanguageSession.Client.World

/-!
# The history of a session

The journal of a run tells at every point which server the session has and which
callbacks wait for a response.  Whether an entry may stand where it does is a question
about the entries before it: a response handler is called for a response to its own
request, or because its request was refused.
-/

namespace LanguageSession

namespace Client

/-- A callback that waits for the response to a request written to a server. -/
structure Waiting where
  callback : Nat
  id : Nat
  server : Option Nat
  deriving DecidableEq

structure Standing where
  server : Option Nat := none
  waiting : List Waiting := []

def Standing.advance (standing : Standing) : Entry → Standing
  | .serving server => { standing with server := server }
  | .awaiting callback id server =>
    { standing with waiting := standing.waiting ++ [⟨callback, id, server⟩] }
  | .called callback _ _ _ =>
    { standing with waiting := standing.waiting.filter fun request => request.callback ≠ callback }
  | .dropped => { standing with waiting := [] }
  | _ => standing

def standing (journal : List Entry) : Standing := journal.foldl Standing.advance {}

@[simp] theorem standing_nil : standing [] = {} := rfl

@[simp] theorem standing_snoc (journal : List Entry) (entry : Entry) :
    standing (journal ++ [entry]) = (standing journal).advance entry := by
  simp [standing]

/-! ## Which entries may stand where -/

/-- Is the entry about this callback? -/
def Concerns (callback : Nat) : Entry → Prop
  | .called who _ _ _ => who = callback
  | .awaiting who _ _ => who = callback
  | .requested who _ => who = callback
  | _ => False

def Untouched (journal : List Entry) (callback : Nat) : Prop :=
  ∀ entry ∈ journal, ¬ Concerns callback entry

theorem untouched_snoc {journal : List Entry} {entry : Entry} {callback : Nat} :
    Untouched (journal ++ [entry]) callback ↔
      Untouched journal callback ∧ ¬ Concerns callback entry := by
  simp [Untouched, or_imp, forall_and]

def Refused (before : List Entry) (callback : Nat) (arguments : List Json) : Prop :=
  Untouched before callback ∧ ∃ error, arguments = (Completion.failure error).arguments

def Waiting.answeredBy (request : Waiting) (message : Json) : Bool :=
  Message.classify message = .response && (Json.nat request.id).sameKey (message.member "id")

/-- The callback is told the response that the server of the session has just delivered. -/
structure Answered (before : List Entry) (request : Waiting) (arguments : List Json)
    (earlier : List Entry) (server : Nat) (message : Json) : Prop where
  delivered : before = earlier ++ [.handling server message, .logged (Log.messageIn message)]
  current : (standing before).server = some server
  waits : request ∈ (standing before).waiting
  matches_id : request.answeredBy message
  arguments : arguments = (Completion.ofResponse message).arguments

def Lawful (before : List Entry) : Entry → Prop
  | .called callback kind _ arguments =>
    kind = "handler" → Refused before callback arguments ∨
      ∃ request earlier server message, request.callback = callback ∧
        Answered before request arguments earlier server message
  | .awaiting callback _ server =>
    Untouched before callback ∧ server.isSome ∧ server = (standing before).server
  | .requested callback none =>
    (∀ id server, .awaiting callback id server ∉ before) ∧
      ∃ name error, .called callback "handler" name (Completion.failure error).arguments ∈ before
  | .requested callback (some id) => ∃ server, .awaiting callback id server ∈ before
  | .serving (some server) => ∀ earlier, .serving (some earlier) ∈ before → earlier < server
  | .serving none => before.getLast? = some .dropped
  | _ => True

/-- Every entry may stand where it does. -/
inductive Coherent : List Entry → Prop
  | nil : Coherent []
  | snoc {journal : List Entry} {entry : Entry} (earlier : Coherent journal)
      (lawful : Lawful journal entry) : Coherent (journal ++ [entry])

theorem coherent_snoc {journal : List Entry} {entry : Entry} :
    Coherent (journal ++ [entry]) ↔ Coherent journal ∧ Lawful journal entry := by
  constructor
  · intro coherent
    generalize same : journal ++ [entry] = whole at coherent
    cases coherent with
    | nil => simp at same
    | snoc earlier lawful =>
        obtain ⟨rfl, same⟩ := List.append_inj' same rfl
        obtain rfl : entry = _ := by simpa using same
        exact ⟨earlier, lawful⟩
  · intro ⟨earlier, lawful⟩
    exact .snoc earlier lawful

theorem Coherent.before {before after : List Entry} (coherent : Coherent (before ++ after)) :
    Coherent before := by
  induction after using List.reverseRecOn with
  | nil => simpa using coherent
  | append_singleton after entry ih =>
      rw [← List.append_assoc, coherent_snoc] at coherent
      exact ih coherent.1

theorem Coherent.lawful {before after : List Entry} {entry : Entry}
    (coherent : Coherent (before ++ entry :: after)) : Lawful before entry := by
  rw [List.append_cons] at coherent
  exact (coherent_snoc.mp coherent.before).2

/-! ## Who waits -/

theorem waiting_advance {before : Standing} {entry : Entry} {request : Waiting}
    (waits : request ∈ (before.advance entry).waiting) :
    entry = .awaiting request.callback request.id request.server ∨
      request ∈ before.waiting ∧ entry ≠ .dropped ∧
        ∀ kind name arguments, entry ≠ .called request.callback kind name arguments := by
  cases entry <;> simp_all [Standing.advance]
  case called => exact fun _ _ _ same => (waits.2 same.symm).elim
  case awaiting =>
    rcases waits with waits | rfl
    · exact .inr waits
    · simp

/-- Whoever waits was registered, and neither called nor dropped since. -/
theorem awaiting_of_waiting {journal : List Entry} {request : Waiting}
    (waits : request ∈ (standing journal).waiting) :
    ∃ before after,
      journal = before ++ .awaiting request.callback request.id request.server :: after ∧
      .dropped ∉ after ∧
      ∀ kind name arguments, .called request.callback kind name arguments ∉ after := by
  induction journal using List.reverseRecOn with
  | nil => simp at waits
  | append_singleton journal entry ih =>
      rw [standing_snoc] at waits
      rcases waiting_advance waits with rfl | ⟨waits, kept, uncalled⟩
      · exact ⟨journal, [], rfl, by simp, by simp⟩
      · obtain ⟨before, after, rfl, undropped, silent⟩ := ih waits
        refine ⟨before, after ++ [entry], by simp, ?_, ?_⟩
        · simpa using ⟨undropped, kept.symm⟩
        · intro kind name arguments
          simpa using ⟨silent kind name arguments, (uncalled kind name arguments).symm⟩

section

variable {journal before after : List Entry} {callback : Nat} {name : Text}
  {arguments : List Json}

theorem Coherent.not_called_of_waiting (coherent : Coherent journal) {request : Waiting}
    (waits : request ∈ (standing journal).waiting) (kind name : Text) (arguments : List Json) :
    .called request.callback kind name arguments ∉ journal := by
  obtain ⟨before, after, rfl, -, silent⟩ := awaiting_of_waiting waits
  have untouched : Untouched before request.callback := coherent.lawful.1
  intro called
  rcases List.mem_append.mp called with called | called
  · exact untouched _ called rfl
  · exact silent kind name arguments (by simpa using called)

theorem Coherent.not_called_before
    (coherent : Coherent (before ++ .called callback "handler" name arguments :: after))
    (kind other : Text) (others : List Json) : .called callback kind other others ∉ before := by
  rcases coherent.lawful rfl with ⟨untouched, -⟩ | ⟨request, _, _, _, rfl, answered⟩
  · exact fun called => untouched _ called rfl
  · exact coherent.before.not_called_of_waiting answered.waits kind other others

/-- A response handler is called at most once. -/
theorem Coherent.called_once
    (coherent : Coherent (before ++ .called callback "handler" name arguments :: after))
    (other : Text) (others : List Json) :
    .called callback "handler" other others ∉ before ++ after := by
  intro called
  rcases List.mem_append.mp called with called | called
  · exact coherent.not_called_before _ other others called
  · obtain ⟨between, later, rfl⟩ := List.append_of_mem called
    have coherent : Coherent
        ((before ++ .called callback "handler" name arguments :: between) ++
          .called callback "handler" other others :: later) := by
      simpa using coherent
    exact coherent.not_called_before "handler" name arguments (by simp)

theorem Coherent.awaiting_once {id : Nat} {server : Option Nat}
    (coherent : Coherent (before ++ .awaiting callback id server :: after))
    (other : Nat) (elsewhere : Option Nat) : .awaiting callback other elsewhere ∉ before ++ after := by
  intro awaiting
  rcases List.mem_append.mp awaiting with awaiting | awaiting
  · exact coherent.lawful.1 _ awaiting rfl
  · obtain ⟨between, later, rfl⟩ := List.append_of_mem awaiting
    have coherent : Coherent
        ((before ++ .awaiting callback id server :: between) ++
          .awaiting callback other elsewhere :: later) := by
      simpa using coherent
    exact coherent.lawful.1 (.awaiting callback id server) (by simp) rfl

/-- A callback that was told of a refusal is never registered. -/
theorem Coherent.not_awaiting_of_refused {kind : Text}
    (coherent : Coherent (before ++ .called callback kind name arguments :: after))
    (untouched : Untouched before callback) (id : Nat) (server : Option Nat) :
    .awaiting callback id server ∉ before ++ .called callback kind name arguments :: after := by
  intro awaiting
  rcases List.mem_append.mp awaiting with awaiting | awaiting
  · exact untouched _ awaiting rfl
  · obtain ⟨between, later, rfl⟩ :=
      List.append_of_mem (List.mem_of_ne_of_mem (by simp) awaiting)
    have coherent : Coherent
        ((before ++ .called callback kind name arguments :: between) ++
          .awaiting callback id server :: later) := by
      simpa using coherent
    exact coherent.lawful.1 (.called callback kind name arguments) (by simp) rfl

/-- Nobody waits twice. -/
theorem Coherent.waiting_nodup (coherent : Coherent journal) :
    ((standing journal).waiting.map Waiting.callback).Nodup := by
  induction coherent with
  | nil => simp
  | @snoc journal entry earlier lawful ih =>
      rw [standing_snoc]
      cases entry with
      | dropped => simp [Standing.advance]
      | called who kind name arguments => exact ih.sublist (List.filter_sublist.map _)
      | awaiting who id server =>
          have fresh : who ∉ (standing journal).waiting.map Waiting.callback := by
            intro member
            obtain ⟨request, waits, rfl⟩ := List.mem_map.mp member
            obtain ⟨before, after, rfl, -⟩ := awaiting_of_waiting waits
            exact lawful.1 (.awaiting request.callback request.id request.server) (by simp) rfl
          simpa [Standing.advance, List.nodup_append] using
            ⟨ih, fun request waits same => fresh (List.mem_map.mpr ⟨request, waits, same⟩)⟩
      | _ => exact ih

/-! ## Calls of response handlers -/

/-- Is the entry a call of this response handler? -/
def isCallOf (callback : Nat) : Entry → Bool
  | .called who kind _ _ => who = callback && kind = "handler"
  | _ => false

theorem isCallOf_eq_true {entry : Entry} :
    isCallOf callback entry = true ↔
      ∃ name arguments, entry = .called callback "handler" name arguments := by
  cases entry <;> simp [isCallOf]

theorem Coherent.count_calls (coherent : Coherent journal) (callback : Nat) :
    journal.countP (isCallOf callback) ≤ 1 := by
  induction coherent with
  | nil => simp
  | @snoc journal entry earlier lawful ih =>
      rw [List.countP_append, List.countP_singleton]
      split
      · next called =>
        obtain ⟨name, arguments, rfl⟩ := isCallOf_eq_true.mp called
        have coherent : Coherent (journal ++ .called callback "handler" name arguments :: []) :=
          earlier.snoc lawful
        have none_before : journal.countP (isCallOf callback) = 0 := by
          rw [List.countP_eq_zero]
          intro entry member again
          obtain ⟨other, others, rfl⟩ := isCallOf_eq_true.mp again
          exact coherent.not_called_before _ other others member
        omega
      · exact ih

/-! ## Servers -/

theorem serving_of_standing {server : Nat} (current : (standing journal).server = some server) :
    .serving (some server) ∈ journal := by
  induction journal using List.reverseRecOn with
  | nil => simp at current
  | append_singleton journal entry ih =>
      rw [standing_snoc] at current
      cases entry with
      | serving number =>
          obtain rfl : number = some server := current
          simp
      | _ => exact List.mem_append_left _ (ih current)

theorem standing_server_of_unserved {later : List Entry}
    (unserved : ∀ server, .serving server ∉ later) :
    (standing (journal ++ later)).server = (standing journal).server := by
  induction later using List.reverseRecOn with
  | nil => simp
  | append_singleton later entry ih =>
      rw [← List.append_assoc, standing_snoc]
      have earlier := ih fun server member => unserved server (List.mem_append_left _ member)
      cases entry with
      | serving server => exact (unserved server (by simp)).elim
      | _ => exact earlier

/-- The servers of a session that keeps a server are ever newer. -/
theorem Coherent.newer_server {later : List Entry} {server number : Nat}
    (coherent : Coherent (journal ++ later)) (current : (standing journal).server = some server)
    (kept : .serving none ∉ later) (served : .serving (some number) ∈ later) :
    ∃ newest, (standing (journal ++ later)).server = some newest ∧ server < newest := by
  induction later using List.reverseRecOn generalizing number with
  | nil => simp at served
  | append_singleton later entry ih =>
      rw [← List.append_assoc] at coherent ⊢
      obtain ⟨sooner, lawful⟩ := coherent_snoc.mp coherent
      rw [standing_snoc]
      have kept_before : .serving none ∉ later :=
        fun member => kept (List.mem_append_left _ member)
      cases entry with
      | serving newest =>
          cases newest with
          | none => exact (kept (by simp)).elim
          | some newest =>
              refine ⟨newest, rfl, lawful server ?_⟩
              exact List.mem_append_left _ (serving_of_standing current)
      | _ => exact ih sooner kept_before (by simpa using served)

theorem Coherent.kept_of_undropped {entry : Entry} {later : List Entry}
    (coherent : Coherent (journal ++ entry :: later)) (undropped : .dropped ∉ entry :: later) :
    .serving none ∉ later := by
  intro member
  obtain ⟨between, rest, rfl⟩ := List.append_of_mem member
  have coherent : Coherent ((journal ++ entry :: between) ++ .serving none :: rest) := by
    simpa using coherent
  have last : (journal ++ entry :: between).getLast? = some .dropped := coherent.lawful
  rw [List.getLast?_append_of_ne_nil _ (by simp)] at last
  have member := List.mem_of_getLast? last
  rw [← List.cons_append] at undropped
  exact undropped (List.mem_append_left _ member)

end

end Client

end LanguageSession
