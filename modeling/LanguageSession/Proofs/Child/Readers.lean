import Mathlib
import LanguageSession.Child.Readers
import LanguageSession.Proofs.Child.Lines
import LanguageSession.Proofs.Run

/-!
# What the readers pass on

A callback may write to the child, wait for it, kill it, close it and raise errors of its own, each
time as it likes.  Whatever it does, it takes what it is given once, and the reader goes on: the
blocks of the output are passed on in order up to its end, then the end of the process once, and of
the error output the lines that are seen of its text.
-/

namespace LanguageSession

namespace Child

open Act

/-! ## Taking and looking on -/

/-- Does a callback take what a reader passes on? -/
def Deed.isTaking : Deed → Bool
  | .tookOutput _ | .tookLine _ | .tookExit _ => true
  | _ => false

def takings (child : Child) : List Deed := (child.notes.map Note.deed).filter Deed.isTaking

/-- The callbacks have taken this and no more, and no process was started or reported as ended. -/
structure Took (taken : List Deed) (before after : Child) : Prop where
  takings : after.takings = before.takings ++ taken
  spawned : after.spawned = before.spawned
  reported : after.exitReported = before.exitReported

/-- Nothing was passed on. -/
abbrev Aside : Child → Child → Prop := Took []

theorem Took.trans {first second : List Deed} {before middle after : Child}
    (begins : Took first before middle) (goes_on : Took second middle after) :
    Took (first ++ second) before after where
  takings := by rw [goes_on.takings, begins.takings, List.append_assoc]
  spawned := goes_on.spawned.trans begins.spawned
  reported := goes_on.reported.trans begins.reported

instance : IsPreorder Child Aside where
  refl _ := ⟨by simp, rfl, rfl⟩
  trans _ _ _ := Took.trans

theorem took_note (thread : Thread) {deed : Deed} (taking : deed.isTaking = true) (child : Child) :
    Ensures (note thread deed) child fun ending after =>
      ending = .ok () ∧ Took [deed] child after := by
  rw [note, ensures_modify]
  exact ⟨rfl, by simp [takings, taking], rfl, rfl⟩

theorem note_aside (thread : Thread) {deed : Deed} (other : deed.isTaking = false) :
    Within Aside (note thread deed) :=
  within_modify fun child => ⟨by simp [takings, other], rfl, rfl⟩

theorem log_aside (thread : Thread) (level : Log.Level) (message : Text) :
    Within Aside (log thread level message) := note_aside thread rfl

/-! ## What callbacks do -/

theorem write_aside (thread : Thread) (data : Bytes) : Within Aside (write thread data) := by
  unfold write
  refine Within.bind within_get fun child => ?_
  split
  · exact within_throw _
  split
  · exact within_throw _
  split
  · exact within_throw _
  · exact Within.bind (note_aside thread rfl) fun _ => note_aside thread rfl

theorem wait_aside (thread : Thread) (time : Duration) : Within Aside (wait thread time) := by
  unfold wait
  refine Within.bind within_get fun child => ?_
  split
  · exact within_pure true
  refine Within.bind (note_aside thread rfl) fun _ => ?_
  split
  · exact within_pure false
  · exact Within.bind (within_modify fun child => ⟨by simp [takings], rfl, rfl⟩) fun _ =>
      within_pure true
  · exact within_pure true

theorem kill_aside (thread : Thread) : Within Aside (kill thread) := by
  unfold kill
  refine Within.bind within_get fun child => ?_
  split
  · refine Within.bind (note_aside thread rfl) fun _ => ?_
    split
    · exact within_modify fun child => ⟨by simp [takings], rfl, rfl⟩
    · split
      · exact log_aside thread .warning _
      · exact within_throw _
  · exact within_pure ()

theorem closePipe_aside (thread : Thread) (pipe : PipeEnd) :
    Within Aside (closePipe thread pipe) := by
  unfold closePipe
  refine Within.bind (note_aside thread rfl) fun _ => Within.bind within_get fun child => ?_
  split
  · exact within_pure ()
  · split
    · exact log_aside thread .debug _
    · exact within_throw _

theorem close_aside (thread : Thread) : Within Aside (close thread) := by
  have outputs : Within Aside (do closePipe thread .output; closePipe thread .errors) :=
    Within.bind (closePipe_aside thread .output) fun _ => closePipe_aside thread .errors
  unfold close
  refine Within.bind within_get fun child => ?_
  split
  · exact within_pure ()
  refine Within.bind (within_modify fun child => ⟨by simp [takings], rfl, rfl⟩) fun _ => ?_
  split
  · split
    · refine Within.bind (within_modify fun child => ⟨by simp [takings], rfl, rfl⟩) fun _ => ?_
      exact Within.bind (closePipe_aside thread .input) fun _ => outputs
    · exact outputs
  · exact within_pure ()

theorem call_aside (thread : Thread) (asked : Call) : Within Aside (call thread asked) := by
  cases asked with
  | write data => exact Within.bind (write_aside thread data) fun _ => within_pure _
  | wait time => exact Within.bind (wait_aside thread time) fun _ => within_pure _
  | kill => exact Within.bind (kill_aside thread) fun _ => within_pure _
  | close => exact Within.bind (close_aside thread) fun _ => within_pure _

theorem react_aside (thread : Thread) (reaction : Reaction) :
    Within Aside (react thread reaction) := by
  unfold react
  refine Within.bind (Within.forM fun asked _ => ?_) fun _ => ?_
  · exact Within.bind (call_aside thread asked) fun _ => within_pure ()
  · split
    · exact within_throw _
    · exact within_pure ()

/-- Whatever a callback does, it takes what it is given once, and its caller goes on. -/
theorem ensures_inform (thread : Thread) (name : Text) {taking : Deed}
    (isTaking : taking.isTaking = true) (listener : Child → Reaction) (child : Child) :
    Ensures (inform thread name taking listener) child fun ending after =>
      ending = .ok () ∧ Took [taking] child after := by
  have contained : Succeeds (tryCatch (do react thread (listener (← getThe Child)))
      fun _ => log thread .error ("LSP " ++ name ++ " handler failed")) :=
    Succeeds.tryCatch fun _ => succeeds_modify _
  have aside : Within Aside (tryCatch (do react thread (listener (← getThe Child)))
      fun _ => log thread .error ("LSP " ++ name ++ " handler failed")) :=
    Within.tryCatch (Within.bind within_get fun child => react_aside thread (listener child))
      fun _ => log_aside thread .error _
  unfold inform
  rw [ensures_bind]
  refine (took_note thread isTaking child).mono ?_
  rintro _ middle ⟨rfl, took⟩
  refine ⟨?_, ?_⟩
  · obtain ⟨⟨⟩, ends⟩ := contained middle
    exact ends
  · exact took.trans (aside middle)

/-! ## The output -/

/-- After its blocks the output has an end, or a failure that the reader is prepared for. -/
def EndsOutput : List Read → Prop
  | [] => True
  | .bytes data :: _ => data = []
  | .failed failure :: _ => failure.isExpected = true

theorem pumpOutput_block {block : Bytes} (filled : block ≠ []) (listeners : Listeners)
    (rest : List Read) : pumpOutput listeners (.bytes block :: rest) = (do
      inform .output "stdout" (.tookOutput block) fun child => listeners.output child block
      pumpOutput listeners rest) := by
  cases block with
  | nil => exact absurd rfl filled
  | cons byte block => rfl

theorem pumpOutput_end {rest : List Read} (ends : EndsOutput rest) (listeners : Listeners)
    (child : Child) : Ensures (pumpOutput listeners rest) child fun ending after =>
      ending = .ok () ∧ Aside child after := by
  match rest with
  | [] => exact ⟨rfl, refl_of Aside child⟩
  | .bytes [] :: _ => exact ⟨rfl, refl_of Aside child⟩
  | .failed failure :: _ =>
      have expected : failure.isExpected = true := ends
      rw [pumpOutput, if_neg (by simp [expected]), ensures_bind, ensures_get]
      by_cases closed : child.closed = true
      · simp [closed, refl_of Aside child]
      · simpa [closed] using ⟨rfl, log_aside .output .error _ child⟩

/-- Every block is taken in its turn, and reading goes on after it. -/
theorem pumpOutput_took {blocks : List Bytes} {rest : List Read}
    (filled : ∀ block ∈ blocks, block ≠ []) (ends : EndsOutput rest) (listeners : Listeners)
    (child : Child) :
    Ensures (pumpOutput listeners (blocks.map .bytes ++ rest)) child fun ending after =>
      ending = .ok () ∧ Took (blocks.map .tookOutput) child after := by
  induction blocks generalizing child with
  | nil => exact pumpOutput_end ends listeners child
  | cons block blocks ih =>
      rw [List.forall_mem_cons] at filled
      rw [List.map_cons, List.cons_append, pumpOutput_block filled.1, ensures_bind]
      refine (ensures_inform .output "stdout" rfl _ child).mono ?_
      rintro _ middle ⟨rfl, first⟩
      refine (ih filled.2 middle).mono ?_
      rintro _ after ⟨rfl, later⟩
      exact ⟨rfl, first.trans later⟩

/-! ## The end of the process -/

/-- The code of the process, also if it ends as soon as it is waited for. -/
def codeByThen (child : Child) : Option Int :=
  child.code.or (if child.behaviour.ending = .never then none else some child.behaviour.code)

theorem ensures_wait {child : Child} (spawned : child.spawned = true) (thread : Thread)
    (time : Duration) : Ensures (wait thread time) child fun ending after =>
      (∃ ended, ending = .ok ended) ∧ after.code = child.codeByThen := by
  rw [wait, ensures_bind, ensures_get]
  simp only [spawned, Bool.not_true, Bool.false_eq_true, if_false]
  rw [note, ensures_bind, ensures_modify, codeByThen]
  cases child.code with
  | some code => exact ⟨⟨true, rfl⟩, rfl⟩
  | none =>
      cases child.behaviour.ending with
      | never => exact ⟨⟨false, rfl⟩, rfl⟩
      | atOnce => exact ⟨⟨true, rfl⟩, rfl⟩
      | whenAwaited => exact ⟨⟨true, rfl⟩, rfl⟩

theorem ensures_lastCode {child : Child} (spawned : child.spawned = true) :
    Ensures lastCode child fun ending after =>
      ending = .ok child.codeByThen ∧ Aside child after := by
  rw [lastCode, ensures_bind, ensures_get]
  dsimp only
  split
  · have aside := wait_aside .output exitGrace child
    rw [ensures_bind]
    refine ((ensures_wait spawned .output exitGrace).and aside).mono ?_
    rintro _ after ⟨⟨⟨ended, rfl⟩, code⟩, aside⟩
    exact ⟨congrArg Except.ok code, aside⟩
  · next known =>
    cases code : child.code with
    | none => simp [code] at known
    | some ended =>
        have same : child.codeByThen = child.code := by simp [codeByThen, code]
        exact ⟨congrArg Except.ok same.symm, refl_of Aside child⟩

theorem ensures_reportExit {child : Child} (spawned : child.spawned = true)
    (unreported : child.exitReported = false) (listeners : Listeners) :
    Ensures (reportExit listeners) child fun ending after =>
      ending = .ok () ∧ after.takings = child.takings ++ [.tookExit child.codeByThen] := by
  let begun : Child := { child with exitReported := true }
  rw [reportExit, ensures_bind, ensures_get]
  simp only [unreported, Bool.false_eq_true, if_false]
  rw [ensures_bind, ensures_modify]
  dsimp only
  rw [ensures_bind]
  refine (ensures_lastCode (show begun.spawned = true from spawned)).mono ?_
  rintro _ middle ⟨rfl, aside⟩
  refine (ensures_inform .output "exit" rfl _ middle).mono ?_
  rintro _ after ⟨rfl, took⟩
  exact ⟨rfl, (aside.trans took).takings⟩

/-! ## Whole pipes -/

/-- The bytes of a pipe up to its end or a failure. -/
def bytesUntilEnd : List Read → Bytes
  | [] => []
  | .bytes [] :: _ => []
  | .bytes (byte :: block) :: rest => byte :: block ++ bytesUntilEnd rest
  | .failed _ :: _ => []

theorem bytesUntilEnd_append {blocks : List Bytes} (filled : ∀ block ∈ blocks, block ≠ [])
    (rest : List Read) :
    bytesUntilEnd (blocks.map .bytes ++ rest) = blocks.flatten ++ bytesUntilEnd rest := by
  induction blocks with
  | nil => rfl
  | cons block blocks ih =>
      rw [List.forall_mem_cons] at filled
      cases block with
      | nil => exact absurd rfl filled.1
      | cons byte block => simp [bytesUntilEnd, ih filled.2]

theorem bytesUntilEnd_end {rest : List Read} (ends : EndsOutput rest) : bytesUntilEnd rest = [] := by
  match rest with
  | [] => rfl
  | .bytes [] :: _ => rfl
  | .failed _ :: _ => rfl

theorem blocks_filled (data : Bytes) : ∀ block ∈ blocks data, block ≠ [] := by
  fun_induction blocks data with
  | case1 data empty => simp
  | case2 data nonempty ih =>
      rw [List.forall_mem_cons]
      refine ⟨?_, ih⟩
      rw [ne_eq, List.take_eq_nil_iff, not_or]
      exact ⟨by decide, by simpa using nonempty⟩

/-- Reading a pipe in blocks gives the bytes of the pipe. -/
theorem bytesUntilEnd_inBlocks (pipe : List Read) :
    bytesUntilEnd (pipe.flatMap Read.inBlocks) = bytesUntilEnd pipe := by
  induction pipe with
  | nil => rfl
  | cons read pipe ih =>
      match read with
      | .failed _ => rfl
      | .bytes [] => rfl
      | .bytes (byte :: data) =>
          rw [List.flatMap_cons, Read.inBlocks, bytesUntilEnd_append (blocks_filled _),
            flatten_blocks, ih]
          · rfl
          · simp

/--
Whatever the callbacks do, each block of the output is taken once and in order, up to the end or a
failure, and after that the end of the process is taken once, with its code if it is known by then;
the reader itself does not fail.  If the blocks are those of a pipe they are its bytes up to there.
-/
theorem output_passed_on (listeners : Listeners) {child : Child} (spawned : child.spawned = true)
    (unreported : child.exitReported = false) {blocks : List Bytes}
    (filled : ∀ block ∈ blocks, block ≠ []) {rest : List Read} (ends : EndsOutput rest) :
    let reads := blocks.map Read.bytes ++ rest
    let ended := Act.after (pumpOutput listeners reads) child
    (result (readOutput listeners reads) child).1 = .ok () ∧
      (Act.after (readOutput listeners reads) child).takings =
        child.takings ++ blocks.map .tookOutput ++ [.tookExit ended.codeByThen] ∧
      ∀ pipe : List Read, pipe.flatMap Read.inBlocks = reads →
        blocks.flatten = bytesUntilEnd pipe := by
  intro reads ended
  obtain ⟨ends_well, pumped⟩ : (result (pumpOutput listeners reads) child).1 = .ok () ∧
      Took (blocks.map .tookOutput) child ended := pumpOutput_took filled ends listeners child
  have reported := ensures_reportExit (pumped.spawned.trans spawned)
    (pumped.reported.trans unreported) listeners
  have whole : result (readOutput listeners reads) child = result (reportExit listeners) ended := by
    rw [readOutput, result_bind, ← Prod.mk.eta (p := result (pumpOutput listeners reads) child),
      ends_well]
    rfl
  refine ⟨whole ▸ reported.1, ?_, fun pipe same => ?_⟩
  · rw [Act.after, whole, reported.2, pumped.takings]
  · rw [← bytesUntilEnd_inBlocks, same, bytesUntilEnd_append filled, bytesUntilEnd_end ends,
      List.append_nil]

def lasting : Child := { argv := ["srv"], behaviour := { ending := .never }, spawned := true }

/-- The first block is answered by a kill, and every callback raises an error. -/
def hostile : Listeners where
  output child _ := ⟨if child.isRunning then [.kill] else [], true⟩
  errors _ _ := ⟨[], true⟩
  exit _ _ := ⟨[.close], true⟩

theorem output_passed_on_of_hostile :
    let reads : List Read :=
      [.bytes [0x61], .bytes [0x62], .failed ⟨.system, "OSError", "gone"⟩, .bytes [0x63]]
    EndsOutput (reads.drop 2) ∧
      (result (readOutput hostile reads) lasting).1 = .ok () ∧
      (Act.after (readOutput hostile reads) lasting).takings =
        [.tookOutput [0x61], .tookOutput [0x62], .tookExit (some (-9))] := by
  have spawned : lasting.spawned = true := rfl
  have filled : ∀ block ∈ ([[0x61], [0x62]] : List Bytes), block ≠ [] := by decide
  have ends : EndsOutput [.failed ⟨.system, "OSError", "gone"⟩, .bytes [0x63]] := rfl
  obtain ⟨ends_well, taken, -⟩ := output_passed_on hostile spawned rfl filled ends
  exact ⟨rfl, ends_well, taken⟩

/-! ## The error output -/

theorem forM_took {α : Type} {action : α → Act Child PUnit} {taking : α → Deed} {list : List α}
    (each : ∀ item child, Ensures (action item) child fun ending after =>
      ending = .ok () ∧ Took [taking item] child after) (child : Child) :
    Ensures (list.forM action) child fun ending after =>
      ending = .ok () ∧ Took (list.map taking) child after := by
  induction list generalizing child with
  | nil => exact ⟨rfl, refl_of Aside child⟩
  | cons item rest ih =>
      refine (ensures_bind _ _ _).mpr ((each item child).mono ?_)
      rintro _ middle ⟨rfl, first⟩
      refine (ih middle).mono ?_
      rintro _ after ⟨rfl, later⟩
      exact ⟨rfl, first.trans later⟩

/--
Whatever the callbacks do, the lines of the error output that are taken are those of the text that
all of it is decoded to: cut at the line feeds, without the line feeds and carriage returns at their
ends, and without lines that are blank.  The reader itself does not fail.
-/
theorem errors_passed_on (listeners : Listeners) (child : Child) (data : Bytes) :
    (result (readErrors listeners data) child).1 = .ok () ∧
      (Act.after (readErrors listeners data) child).takings =
        child.takings ++ (Text.visibleLines (Utf8.decodeLossy data)).map .tookLine := by
  have taken : Ensures (readErrors listeners data) child fun ending after =>
      ending = .ok () ∧ Took (((lines data).filterMap lineText?).map .tookLine) child after :=
    forM_took (fun line => ensures_inform .errors "stderr" rfl _) child
  rw [filterMap_lines] at taken
  exact ⟨taken.1, taken.2.takings⟩

end Child

end LanguageSession
