import Mathlib
import LanguageSession.Proofs.Client.Broad

/-!
# Calls within calls

The steps that callbacks take nest: each is marked where it begins and where it returns, and what
it does stands in between.  A law of what is noted that holds of most entries and of one addition
after another is kept by every operation that ends no session, if the scripts of callbacks and the
output of servers keep it.
-/

namespace LanguageSession

namespace Client

open Act

/-! ## Additions to the journal -/

/-- Entries that mark neither the return of a step nor the beginning of an end. -/
def Common : Entry → Prop
  | .did _ _ => False
  | .ending _ => False
  | _ => True

theorem Reticent.common {entry : Entry} (reticent : Reticent entry) : Common entry := by
  cases entry <;> trivial

/-- Laws that hold of nothing, of common entries and of one addition after another. -/
class Cumulative (law : List Entry → Prop) : Prop where
  nothing : law []
  common : ∀ entry, Common entry → law [entry]
  append : ∀ {added later}, law added → law later → law (added ++ later)

/-- The law holds of what is added to the journal. -/
def Lengthens (law : List Entry → Prop) (world world' : World) : Prop :=
  ∃ added, world'.journal.entries = world.journal.entries ++ added ∧ law added

theorem Lengthens.mono {law wider : List Entry → Prop} {world world' : World}
    (implies : ∀ added, law added → wider added) (lengthens : Lengthens law world world') :
    Lengthens wider world world' :=
  lengthens.imp fun added => And.imp_right (implies added)

section

variable {law : List Entry → Prop} [Cumulative law] {world world' : World} {nested : Nested}

theorem lengthens_of_journal (journal : world'.journal = world.journal) :
    Lengthens law world world' :=
  ⟨[], by rw [journal, List.append_nil], Cumulative.nothing⟩

theorem lengthens_noting (world : World) {entry : Entry} (common : Common entry) :
    Lengthens law world (world.noting entry) := ⟨[entry], rfl, Cumulative.common entry common⟩

instance : IsPreorder World (Lengthens law) where
  refl _ := lengthens_of_journal rfl
  trans _ _ _ := by
    rintro ⟨added, grown, first⟩ ⟨later, grown', second⟩
    exact ⟨added ++ later, by rw [grown', grown, List.append_assoc], Cumulative.append first second⟩

instance : Broad (Lengthens law) where
  noting world _ reticent := lengthens_noting world reticent.common
  serving _ _ := lengthens_of_journal rfl
  renewing _ _ _ _ _ := lengthens_of_journal rfl
  keeping _ _ journal _ _ _ _ _ _ := lengthens_of_journal journal

variable (law nested) in
structure Playing : Prop where
  plays : ∀ script, Within (Lengthens law) (runScript Step.operation nested.perform script)
  receives : ∀ server data, Within (Lengthens law) (nested.receive server data)

variable (playing : Playing law nested)

include playing

theorem Playing.invoke (who : Nat) (arguments : List Json) :
    Within (Lengthens law) (invoke Step.operation nested.perform who arguments) := fun world =>
  ensures_invoke_since arguments (fun _ _ => lengthens_noting world trivial) fun callback _ =>
    proceed_within arguments (fun _ => lengthens_of_journal rfl) (playing.plays callback.script)

theorem Playing.emit (event : Event) : Within (Lengthens law) (emit nested event) := by
  intro world
  refine ensures_emit_since (lengthens_noting world trivial) fun listener _ world' _ => ?_
  cases listener with
  | callback who => exact playing.invoke who event.arguments world'
  | echo =>
      cases event with
      | log text => exact lengthens_noting world' trivial
      | _ => exact refl_of (Lengthens law) world'
  | collect =>
      cases event with
      | diagnostics uri items => exact lengthens_of_journal rfl
      | _ => exact refl_of (Lengthens law) world'

theorem Playing.setReady (ready : Bool) : Within (Lengthens law) (setReady nested ready) := by
  refine Within.bind within_getSession fun session => ?_
  split
  · exact within_pure _
  · refine Within.bind (fun _ => lengthens_of_journal rfl) fun _ => ?_
    dsimp only
    split
    · exact Within.bind (setPhase_broad _) fun _ => playing.emit _
    · exact playing.emit _

omit playing in
theorem lengthens_awaits (handler : Handler) : Awaits (Lengthens law) handler := by
  refine awaits_of_awaited fun world id => ?_
  cases handler with
  | callback who => exact ⟨[_], rfl, Cumulative.common (.awaiting who id _) trivial⟩
  | _ => exact lengthens_of_journal rfl

theorem Playing.complete (handler : Handler) (completion : Completion)
    (other : handler ≠ .handshake) :
    Within (Lengthens law) (complete nested handler completion) := by
  cases handler with
  | handshake => exact (other rfl).elim
  | mailbox slot => exact fun _ => lengthens_of_journal rfl
  | callback who => exact playing.invoke who completion.arguments

theorem Playing.answering : Answering (Lengthens law) nested where
  tells event _ := playing.emit event
  readied := playing.setReady true
  receives := playing.receives
  opens := lengthens_awaits _
  answers _ server message handler _ _ _ _ _ split _ other :=
    (playing.complete handler _ other).later (handling_broad server message split)

end

/-! ## Steps under way -/

/-- A step of a callback begins. -/
def entersStep : Entry → Bool
  | .doing _ => true
  | _ => false

/-- A step of a callback has returned. -/
def leavesStep : Entry → Bool
  | .did _ _ => true
  | _ => false

def Bracketed (entries : List Entry) : Prop :=
  ∀ early, early <+: entries → early.countP leavesStep ≤ early.countP entersStep

/-- All steps of callbacks have returned, and no output has arrived. -/
structure Undisturbed (entries : List Entry) : Prop where
  returned : entries.countP leavesStep = entries.countP entersStep
  unheard : ∀ server data, .arrived server data ∉ entries

structure Biding (entries : List Entry) : Prop where
  bracketed : Bracketed entries
  disturbed : ∀ early server, early ++ [.ending server] <+: entries → ¬ Undisturbed early

section

variable {added later : List Entry}

theorem prefix_append_cases {early : List Entry} (begins : early <+: added ++ later) :
    early <+: added ∨ ∃ rest, early = added ++ rest ∧ rest <+: later := by
  obtain ⟨more, same⟩ := begins
  rcases List.append_eq_append_iff.mp same with ⟨rest, rfl, -⟩ | ⟨rest, rfl, rfl⟩
  · exact .inl (List.prefix_append _ _)
  · exact .inr ⟨rest, rfl, List.prefix_append _ _⟩

theorem bracketed_of_unreturned
    (unreturned : ∀ operation result, .did operation result ∉ added) : Bracketed added := by
  intro early begins
  have never : early.countP leavesStep = 0 := by
    refine List.countP_eq_zero.mpr fun entry member => ?_
    cases entry with
    | did operation result => exact (unreturned operation result (begins.subset member)).elim
    | _ => simp [leavesStep]
  omega

theorem bracketed_common {entry : Entry} (common : Common entry) : Bracketed [entry] := by
  refine bracketed_of_unreturned fun operation result member => ?_
  obtain rfl := List.mem_singleton.mp member
  exact common

theorem Bracketed.append (first : Bracketed added) (second : Bracketed later) :
    Bracketed (added ++ later) := by
  intro early begins
  rcases prefix_append_cases begins with earlier | ⟨rest, rfl, after⟩
  · exact first early earlier
  · have before := first added List.prefix_rfl
    have since := second rest after
    rw [List.countP_append, List.countP_append]
    omega

instance : Cumulative Bracketed where
  nothing := by simp [Bracketed]
  common _ := bracketed_common
  append := Bracketed.append

theorem Undisturbed.since (undisturbed : Undisturbed (added ++ later)) (first : Bracketed added)
    (second : Bracketed later) : Undisturbed later := by
  have before := first added List.prefix_rfl
  have since := second later List.prefix_rfl
  have returned := undisturbed.returned
  rw [List.countP_append, List.countP_append] at returned
  exact ⟨by omega, fun server data member =>
    undisturbed.unheard server data (List.mem_append_right _ member)⟩

theorem Bracketed.before (bracketed : Bracketed later) {early : List Entry}
    (begins : early <+: later) : Bracketed early :=
  fun earlier first => bracketed earlier (first.trans begins)

theorem Biding.append (first : Biding added) (second : Biding later) : Biding (added ++ later) := by
  refine ⟨first.bracketed.append second.bracketed, fun early server begins => ?_⟩
  rcases prefix_append_cases begins with earlier | ⟨rest, same, after⟩
  · exact first.disturbed early server earlier
  · rcases List.eq_nil_or_concat rest with rfl | ⟨between, last, rfl⟩
    · rw [List.append_nil] at same
      exact first.disturbed early server (same ▸ List.prefix_rfl)
    · rw [List.concat_eq_append] at same after
      rw [← List.append_assoc] at same
      obtain ⟨rfl, last⟩ := List.append_inj' same rfl
      obtain rfl : Entry.ending server = _ := by simpa using last
      have begun := (List.prefix_append between [.ending server]).trans after
      exact fun undisturbed => second.disturbed between server after
        (undisturbed.since first.bracketed (second.bracketed.before begun))

theorem biding_of_unending (bracketed : Bracketed added)
    (unending : ∀ server, .ending server ∉ added) : Biding added :=
  ⟨bracketed, fun early server begins => (unending server (begins.subset (by simp))).elim⟩

instance : Cumulative Biding where
  nothing := biding_of_unending Cumulative.nothing (by simp)
  common entry common := by
    refine biding_of_unending (bracketed_common common) fun server member => ?_
    obtain rfl := List.mem_singleton.mp member
    exact common
  append := Biding.append

/-- What comes after a disturbance is disturbed. -/
theorem biding_cons {entry : Entry} (common : Common entry) (bracketed : Bracketed later)
    (disturbs : ∀ early, early <+: later → ¬ Undisturbed (entry :: early)) :
    Biding (entry :: later) := by
  refine ⟨(bracketed_common common).append bracketed, fun early server begins => ?_⟩
  cases early with
  | nil =>
      obtain ⟨rest, same⟩ := begins
      obtain ⟨rfl, -⟩ := List.cons.inj same
      exact common.elim
  | cons first early =>
      rw [List.cons_append, List.cons_prefix_cons] at begins
      obtain ⟨rfl, begins⟩ := begins
      exact disturbs early ((List.prefix_append _ _).trans begins)

theorem biding_of_arrived (server : Nat) (data : Bytes) (bracketed : Bracketed later) :
    Biding (.arrived server data :: later) :=
  biding_cons trivial bracketed fun _ _ undisturbed => undisturbed.unheard server data (by simp)

theorem biding_of_doing (operation : Text) (bracketed : Bracketed later) :
    Biding (.doing operation :: later) := by
  refine biding_cons trivial bracketed fun early begins undisturbed => ?_
  have returned := undisturbed.returned
  have inside := bracketed early begins
  simp only [List.countP_cons, leavesStep, entersStep, Bool.false_eq_true, if_false, if_true]
    at returned
  omega

theorem Biding.returning (biding : Biding added)
    (inside : added.countP leavesStep < added.countP entersStep) (operation : Text)
    (result : Json) : Biding (added ++ [.did operation result]) := by
  refine ⟨fun early begins => ?_, fun early server begins => ?_⟩
  · rcases List.prefix_concat_iff.mp begins with rfl | begins
    · simp only [List.countP_append, List.countP_singleton, leavesStep, entersStep, if_true,
        Bool.false_eq_true, if_false]
      omega
    · exact biding.bracketed early begins
  · rcases List.prefix_concat_iff.mp begins with same | begins
    · simp at same
    · exact biding.disturbed early server begins

end

/-! ## Nested calls -/

/-- The steps of nested calls nest, and so do those that output brings about. -/
structure Nesting (nested : Nested) : Prop where
  performs : ∀ step, Within (Lengthens Bracketed) (nested.perform step)
  receives : ∀ server data world, Ensures (nested.receive server data) world fun _ =>
    Lengthens Bracketed (world.noting (.arrived server data))

section

variable {nested : Nested}

theorem Nesting.scripted (nesting : Nesting nested) (step : Step) :
    Within (Lengthens Biding) (scripted nested step) := by
  intro world
  unfold LanguageSession.Client.scripted
  rw [ensures_bind, ensures_write, add_eq_noting, ensures_bind]
  refine (nesting.performs step (world.noting (.doing step.operation))).mono ?_
  rintro ending after ⟨added, grown, bracketed⟩
  have since : after.journal.entries = world.journal.entries ++ .doing step.operation :: added := by
    rw [grown]
    simp
  have biding := biding_of_doing step.operation bracketed
  cases ending with
  | error fault => exact ⟨_, since, biding⟩
  | ok result =>
      have inside := bracketed added List.prefix_rfl
      change Lengthens Biding world (after.noting (.did step.operation result))
      refine ⟨_, ?_, biding.returning ?_ step.operation result⟩
      · rw [noting_entries, since, List.append_assoc]
      · simp only [List.countP_cons, leavesStep, entersStep, if_true, Bool.false_eq_true, if_false]
        omega

theorem Nesting.playing (nesting : Nesting nested) : Playing Biding nested where
  plays script := by
    rw [runScript_eq]
    exact Within.forM fun step _ => nesting.scripted step
  receives server data world := by
    refine (nesting.receives server data world).mono ?_
    rintro _ after ⟨added, grown, bracketed⟩
    exact ⟨_, by rw [grown]; simp, biding_of_arrived server data bracketed⟩

theorem Playing.bracketed (playing : Playing Biding nested) : Playing Bracketed nested where
  plays script world :=
    (playing.plays script world).mono fun _ _ => Lengthens.mono fun _ => Biding.bracketed
  receives server data world :=
    (playing.receives server data world).mono fun _ _ => Lengthens.mono fun _ => Biding.bracketed

variable (playing : Playing Bracketed nested)

include playing

theorem Playing.telling : Telling (Lengthens Bracketed) nested where
  toInforming := playing.answering.toInforming
  ends world server := ⟨[.ending server], rfl, bracketed_of_unreturned (by simp)⟩
  unreadied := playing.setReady false

theorem Playing.keeping : Keeping (Lengthens Bracketed) nested :=
  playing.telling.keeping playing.answering.toHearing

theorem Playing.performs (step : Step) : Within (Lengthens Bracketed) (performWith nested step) := by
  have acting : Acting (Lengthens Bracketed) nested :=
    ⟨playing.keeping.halting, lengthens_awaits, playing.complete⟩
  refine performWith_within acting ?_
  cases step with
  | start command arguments root =>
      refine playing.keeping.start (fun argv world => ?_) command arguments root
      exact ⟨[.serving (some world.servers.length)], rfl, bracketed_common trivial⟩
  | request method params handler =>
      cases handler with
      | none => trivial
      | some callback => exact fun _ => lengthens_of_journal rfl
  | subscribe channel listener => exact fun _ => lengthens_of_journal rfl
  | unsubscribe name => exact fun _ _ _ => lengthens_of_journal rfl
  | send server message => exact playing.answering.receive playing.telling
  | raw server data => exact playing.answering.receive playing.telling
  | set server running change => exact fun _ _ => lengthens_of_journal rfl
  | setFactory change => exact fun _ => lengthens_of_journal rfl
  | _ => trivial

omit playing

theorem nestedCalls_nest (depth : Nat) : Nesting (nestedCalls depth) := by
  induction depth with
  | zero =>
      refine ⟨fun step => within_throw _, fun server data world => ?_⟩
      refine (receiveTooDeep_arrives server data world).mono ?_
      rintro _ _ rfl
      exact refl_of (Lengthens Bracketed) _
  | succ depth ih =>
      have playing := ih.playing.bracketed
      exact ⟨playing.performs, playing.answering.receive_arrived playing.telling⟩

end

end Client

end LanguageSession
