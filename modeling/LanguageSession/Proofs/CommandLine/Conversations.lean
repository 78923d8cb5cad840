import Mathlib
import LanguageSession.CommandLine.Run
import LanguageSession.Proofs.Client.Announcements
import LanguageSession.Proofs.Client.Closings
import LanguageSession.Proofs.Client.Letters

/-!
# What a command leaves behind

However a command ends, every server that was made for it has been closed.  The exit code says
what has come of it: with two nothing was done, and with zero the server had accepted the session
and what was asked for was shown.
-/

namespace LanguageSession

namespace CommandLine

open Act Client

/-! ## Clients of commands -/

/-- The client of a command between two operations: it has no callbacks, and no script runs. -/
structure Solitary (settings : Settings) (world : World) : Prop
    extends Paused (Closes settings) world where
  worded : Worded world
  callbacks : world.cast.callbacks = []
  unmarked : ∀ entry ∈ world.journal.entries, ¬ Marks entry
  announced : world.session.ready = true → .emitted (.ready true) ∈ world.journal.entries

def Goes (settings : Settings) (world world' : World) : Prop :=
  Solitary settings world →
    Solitary settings world' ∧ world.journal.entries <+: world'.journal.entries

section

variable {settings : Settings} {world world' : World}

instance (settings : Settings) : IsPreorder World (Goes settings) where
  refl _ solitary := ⟨solitary, List.prefix_rfl⟩
  trans _ _ _ first second solitary := by
    obtain ⟨solitary, grown⟩ := first solitary
    obtain ⟨solitary, grown'⟩ := second solitary
    exact ⟨solitary, grown.trans grown'⟩

theorem solitary_fresh (surroundings : Surroundings) (listeners : List (Channel × Listener)) :
    Solitary (Settings.ofEnvironment surroundings.environment)
      (clientFor surroundings listeners) where
  toPaused := by
    have fresh : Closes (Settings.ofEnvironment surroundings.environment)
        ⟨{}, [], Settings.ofEnvironment surroundings.environment, 0⟩ :=
      ⟨rfl, .inr ⟨obeys_nil, fun _ => rfl, fun _ => le_rfl⟩⟩
    have paused := paused_fresh _ surroundings.conduct fresh
    exact ⟨paused.toGoverned.of_view rfl, rfl⟩
  worded := ⟨rfl, .nothing⟩
  callbacks := rfl
  unmarked := by simp [clientFor]
  announced := by rintro ⟨⟩

theorem unasked_fresh (surroundings : Surroundings) (listeners : List (Channel × Listener)) :
    Unasked (clientFor surroundings listeners) :=
  ⟨rfl, by simp [World.Expects, clientFor], rfl⟩

theorem Solitary.noting (solitary : Solitary settings world) (output : Terminal.Output) :
    Solitary settings (world.noting (.shown output)) where
  toPaused := ⟨solitary.toGoverned.noting trivial, solitary.going⟩
  worded := (words_noting (show Loose (.shown output) from trivial) (by simp) world
    solitary.worded).1
  callbacks := solitary.callbacks
  unmarked := by
    rw [noting_entries]
    exact List.forall_mem_append.mpr ⟨solitary.unmarked, by simp [Marks]⟩
  announced ready := List.mem_append_left _ (solitary.announced ready)

/-- What the client of a command performs makes no callbacks. -/
theorem performWith_solitary (solitary : Solitary settings world) {step : Step} (plain : step.Plain)
    (depth : Nat) :
    Ensures (performWith (nestedCalls depth) step) world fun _ after =>
      Performed (Closes settings) step world after ∧ Solitary settings after ∧
        world.journal.entries <+: after.journal.entries := by
  have unaltered : Harmless (Closes settings) id := fun _ _ _ _ => rfl
  have performs := (performWith_mirrors (paired_tower unaltered depth) solitary.toGoverned step
    fun _ stopping => by rw [solitary.going] at stopping; cases stopping).2
  have words := performWith_words (nestedCalls_fluent depth) step world
  have secludes := performWith_secludes (nestedCalls_post depth) plain world
  refine (performs.and (words.and secludes)).mono ?_
  rintro _ after ⟨performed, words, secludes⟩
  obtain ⟨worded, grown⟩ := words solitary.worded
  obtain ⟨added, secluded⟩ := secludes solitary.callbacks
  refine ⟨performed, ⟨performed.paused solitary.going, worded, secluded.callbacks, ?_, ?_⟩, grown⟩
  · rw [secluded.grown]
    exact List.forall_mem_append.mpr ⟨solitary.unmarked, secluded.unmarked⟩
  · intro ready
    rw [secluded.grown, List.mem_append]
    exact (secluded.announced ready).imp_left solitary.announced

theorem ensures_of_answered {α β : Type} {post : World → Prop} {action : Act World α}
    {answer : α → β}
    (ensures : Ensures (action >>= fun value => pure (answer value)) world fun _ => post) :
    Ensures action world fun _ => post := by
  refine ((ensures_bind _ _ _).mp ensures).mono fun ending after holds => ?_
  cases ending with
  | ok value => exact holds
  | error fault => exact holds

theorem step_goes {step : Step} (plain : step.Plain) :
    Within (Goes settings) (performWith nested step) := fun _ solitary =>
  (performWith_solitary solitary plain callDepth).2

theorem start_goes (command : Text) (arguments : List Text) (root : Option Text) :
    Within (Goes settings) (Client.start nested command arguments root) := fun world =>
  ensures_of_answered (step_goes (show Step.Plain (.start command arguments root) from trivial) world)

theorem didOpen_goes (uri language : Text) (text : Json) :
    Within (Goes settings) (Client.didOpen nested uri language text) := fun world =>
  ensures_of_answered (step_goes (show Step.Plain (.didOpen uri language text) from trivial) world)

theorem requestSync_goes (method : Text) (params : Json) (timeout : Option Duration) :
    Within (Goes settings) (Client.requestSync nested method params timeout) := fun world =>
  ensures_of_answered
    (step_goes (show Step.Plain (.requestSync method params timeout) from trivial) world)

/-- After a stop the client of a command has no server. -/
theorem stop_leaves (solitary : Solitary settings world) :
    Ensures (Client.stop nested none) world fun _ after =>
      Solitary settings after ∧ after.session.server = none ∧
        world.journal.entries <+: after.journal.entries := by
  have performs : Ensures (performWith nested .stop) world fun _ after =>
      Solitary settings after ∧ after.session.server = none ∧
        world.journal.entries <+: after.journal.entries := by
    refine (performWith_solitary solitary (show Step.Plain .stop from trivial) callDepth).mono ?_
    rintro _ after ⟨performed, solitary', grown⟩
    obtain ⟨added, passage, leaves⟩ := performed.passage
    refine ⟨solitary', leaves rfl solitary.going fun server taken => ?_, grown⟩
    rcases passage.taken server taken with starts | begun
    · exact absurd starts (by decide)
    · have noted : .doing "start" ∈ after.journal.entries := by
        rw [show after.journal.entries = world.journal.entries ++ added from passage.entries]
        exact List.mem_append_right _ begun
      exact solitary'.unmarked _ noted trivial
  exact ensures_of_answered performs

/-- All servers of a client that has none have been closed once. -/
theorem Solitary.closed (solitary : Solitary settings world)
    (nobody : world.session.server = none) {server : Nat}
    (made : .serving (some server) ∈ world.journal.entries) :
    world.journal.entries.countP (closes server) = 1 := by
  have unbegun : world.journal.entries.any restarts = false := by
    refine List.any_eq_false.mpr fun entry member => ?_
    cases entry with
    | doing operation => exact (solitary.unmarked _ member trivial).elim
    | _ => simp [restarts]
  obtain ⟨-, begun | kept⟩ := solitary.lawful
  · rw [view_entries, unbegun] at begun
    cases begun
  · have known : server < world.servers.length := solitary.sane.made server _ made rfl
    have count := kept.closed server
    rw [view_entries, view_made, view_session, nobody] at count
    simpa [known] using count

/-! ## Sessions of commands -/

/-- The server has accepted the session, and the session was announced as ready. -/
def Welcomed (entries : List Entry) : Prop :=
  ∃ opened rest, entries = opened ++ rest ∧ Client.Opening opened ∧ .emitted (.ready true) ∈ rest

theorem Solitary.welcomed (solitary : Solitary settings world)
    (ready : world.session.ready = true) : Welcomed world.journal.entries := by
  obtain ⟨before, after, split⟩ := List.append_of_mem (solitary.announced ready)
  have warranted := solitary.worded.phrased.warranted before _ after split .event
  obtain ⟨opened, changes, rfl, opens, -⟩ := warranted
  refine ⟨opened, changes ++ .emitted (.ready true) :: after, ?_, opens, by simp⟩
  rw [split, List.append_assoc]

variable (surroundings : Surroundings)

theorem display_goes (output : Terminal.Output) :
    Within (Goes settings) (display surroundings output) := by
  intro world solitary
  unfold display
  split
  · exact ⟨solitary, List.prefix_rfl⟩
  · exact ⟨solitary.noting output, List.prefix_append _ _⟩

theorem connect_goes (root : Option Text) (command : Text) (arguments : List Text) :
    Within (Goes settings) (connect surroundings root command arguments) := by
  unfold connect
  refine Within.bind (within_ofExcept _) fun uri => Within.bind within_get fun world => ?_
  refine Within.bind (start_goes _ _ _) fun started => ?_
  split
  · exact Within.bind (display_goes surroundings _) fun _ => within_pure _
  · refine Within.bind (waitReady_within _) fun ready => ?_
    split
    · exact Within.bind (display_goes surroundings _) fun _ => within_pure _
    · exact within_pure _

theorem openTarget_goes (target : Target) :
    Within (Goes settings) (openTarget surroundings target) := by
  unfold openTarget
  split
  · exact within_pure _
  · split
    · exact Within.bind (within_ofExcept _) fun _ => within_pure _
    · refine Within.bind (within_ofExcept _) fun uri => ?_
      exact Within.bind (didOpen_goes _ _ _) fun _ => within_pure _

theorem awaitDiagnostics_goes (wait : Duration) :
    Within (Goes settings) (awaitDiagnostics wait) := by
  refine Within.bind within_get fun world => ?_
  dsimp only
  split
  · exact Within.bind (within_ofExcept _) fun _ => within_pure _
  · exact within_pure _

theorem converse_goes (target : Target) (wait : Duration) (command : Text)
    (arguments : List Text) :
    Within (Goes settings) (converse surroundings target wait command arguments) := by
  unfold converse
  refine Within.bind (connect_goes surroundings _ _ _) fun ready => ?_
  split
  · exact within_pure _
  · refine Within.bind (Within.bind within_get fun _ => within_pure _) fun pid => ?_
    refine Within.bind (display_goes surroundings _) fun _ => ?_
    refine Within.bind (openTarget_goes surroundings _) fun ending => ?_
    split
    · exact within_pure _
    · refine Within.bind (awaitDiagnostics_goes _) fun published => ?_
      refine Within.bind (within_ofExcept _) fun output => ?_
      exact Within.bind (display_goes surroundings _) fun _ => within_pure _

theorem inquire_goes (target : Target) (inquiry : Inquiry) (params : Json) (command : Text)
    (arguments : List Text) :
    Within (Goes settings) (inquire surroundings target inquiry params command arguments) := by
  unfold inquire
  refine Within.bind (connect_goes surroundings _ _ _) fun ready => ?_
  split
  · exact within_pure _
  · refine Within.bind (openTarget_goes surroundings _) fun ending => ?_
    split
    · exact within_pure _
    · refine Within.bind (requestSync_goes _ _ _) fun completion => ?_
      split
      · exact Within.bind (display_goes surroundings _) fun _ => within_pure _
      · exact Within.bind (display_goes surroundings _) fun _ => within_pure _

/-! ## What comes of a conversation -/

/-- With exit code zero this has been accomplished, and two is not the exit code. -/
def Concluded (accomplished : List Entry → Prop) (ending : Except Fault Ending) (world : World) :
    Prop :=
  ∀ conclusion, ending = .ok conclusion → conclusion.exitCode ≠ 2 ∧
    (conclusion.exitCode = 0 → accomplished world.journal.entries)

variable {accomplished : List Entry → Prop}

omit surroundings in
theorem concluded_error (fault : Fault) (world : World) :
    Concluded accomplished (.error fault) world := by
  rintro conclusion ⟨⟩

omit surroundings in
theorem concluded_failure {conclusion : Ending} (failure : conclusion.exitCode = 1) (world : World) :
    Concluded accomplished (.ok conclusion) world := by
  rintro _ ⟨⟩
  rw [failure]
  exact ⟨by decide, by rintro ⟨⟩⟩

omit surroundings in
theorem ensures_concluded {α : Type} {invariant : World → Prop} {action : Act World α}
    {next : α → Act World Ending} (first : Ensures action world fun _ => invariant)
    (second : ∀ value middle, invariant middle →
      Ensures (next value) middle (Concluded accomplished)) :
    Ensures (action >>= next) world (Concluded accomplished) := by
  rw [ensures_bind]
  refine first.mono fun ending middle holds => ?_
  cases ending with
  | ok value => exact second value middle holds
  | error fault => exact concluded_error fault middle

/-- After the session was announced as ready this was shown. -/
def Answered (shows : List Entry → Terminal.Output → Prop) (entries : List Entry) : Prop :=
  ∃ welcomed later output rest, entries = welcomed ++ later ++ .shown output :: rest ∧
    Welcomed welcomed ∧ shows later output

variable {shows : List Entry → Terminal.Output → Prop}

omit surroundings in
theorem Answered.append {entries : List Entry} (answered : Answered shows entries)
    (added : List Entry) : Answered shows (entries ++ added) := by
  obtain ⟨welcomed, later, output, rest, rfl, welcome, shown⟩ := answered
  exact ⟨welcomed, later, output, rest ++ added, by simp, welcome, shown⟩

theorem display_concludes {welcomed later : List Entry} {output : Terminal.Output}
    (welcome : Welcomed welcomed) (since : world.journal.entries = welcomed ++ later)
    (shown : shows later output) :
    Ensures (display surroundings output >>= fun _ => return Ending.completed) world
      (Concluded (Answered shows)) := by
  unfold display
  split
  · exact concluded_error _ _
  · rintro _ ⟨⟩
    refine ⟨by decide, fun _ => ⟨welcomed, later, output, [], ?_, welcome, shown⟩⟩
    rw [← since]
    rfl

theorem display_unasked (unasked : Unasked world) (output : Terminal.Output) :
    Ensures (display surroundings output) world fun _ => Unasked := by
  have shown : Posts True world (world.noting (.shown output)) :=
    Broad.noting world (.shown output) trivial
  unfold display
  split
  · exact unasked
  · exact unasked.posts shown

omit surroundings in
theorem waitReady_stays (timeout : Option Duration) (world : World) :
    Ensures (waitReady timeout) world fun ending after => after = world ∧
      (ending = .ok true → world.session.ready = true) := by
  have judged : Ensures (return world.session.ready : Act World Bool) world fun ending after =>
      after = world ∧ (ending = .ok true → world.session.ready = true) :=
    ⟨rfl, Except.ok.inj⟩
  unfold waitReady
  rw [ensures_bind]
  simp only [ensures_getSession]
  cases timeout with
  | none => exact judged
  | some time =>
      dsimp only
      split
      · rw [ensures_bind, ensures_ofExcept]
        cases time.toDouble.mapError Fault.time with
        | error fault => exact ⟨rfl, by rintro ⟨⟩⟩
        | ok seconds =>
            dsimp only
            rw [ensures_bind, ensures_ofExcept]
            cases time.await.mapError Fault.time with
            | error fault => exact ⟨rfl, by rintro ⟨⟩⟩
            | ok waited => exact judged
      · exact judged

theorem connect_unasked (unasked : Unasked world) (root : Option Text) (command : Text)
    (arguments : List Text) :
    Ensures (connect surroundings root command arguments) world fun ending after =>
      Unasked after ∧ (ending = .ok true → after.session.ready = true) := by
  have refuses {world : World} (unasked : Unasked world) (output : Terminal.Output) :
      Ensures (display surroundings output >>= fun _ => return false) world fun ending after =>
        Unasked after ∧ (ending = .ok true → after.session.ready = true) := by
    rw [ensures_bind]
    refine (display_unasked surroundings unasked output).mono fun ending after unasked => ?_
    cases ending with
    | ok shown => exact ⟨unasked, by rintro ⟨⟩⟩
    | error fault => exact ⟨unasked, by rintro ⟨⟩⟩
  unfold connect
  rw [ensures_bind, ensures_ofExcept]
  cases surroundings.fileUri _ with
  | error fault => exact ⟨unasked, by rintro ⟨⟩⟩
  | ok uri =>
      dsimp only
      rw [ensures_bind, ensures_get]
      dsimp only
      rw [ensures_bind]
      refine (start_unasked (nestedCalls_post callDepth) unasked command arguments (some uri)).mono ?_
      intro ending started unasked
      cases ending with
      | error fault => exact ⟨unasked, by rintro ⟨⟩⟩
      | ok begun =>
          cases begun with
          | false => exact refuses unasked _
          | true =>
              refine (ensures_bind _ _ _).mpr ((waitReady_stays _ started).mono ?_)
              rintro ending _ ⟨rfl, ready⟩
              cases ending with
              | error fault => exact ⟨unasked, by rintro ⟨⟩⟩
              | ok value =>
                  cases value with
                  | false => exact refuses unasked _
                  | true => exact ⟨unasked, fun _ => ready rfl⟩

theorem openTarget_unasked (unasked : Unasked world) (target : Target) :
    Ensures (openTarget surroundings target) world fun ending after => Unasked after ∧
      ∀ conclusion, ending = .ok (some conclusion) → conclusion.exitCode = 1 := by
  have opens (uri language : Text) (text : Json) :
      Within (Posts True) (Client.didOpen nested uri language text) :=
    giveNotice_within (posts_keeping (nestedCalls_post callDepth)).halting
      (.opened uri language text)
  unfold openTarget
  split
  · exact ⟨unasked, by rintro _ ⟨⟩⟩
  · split
    · rw [ensures_bind, ensures_ofExcept]
      cases shownName _ with
      | error fault => exact ⟨unasked, by rintro _ ⟨⟩⟩
      | ok name => exact ⟨unasked, by rintro _ ⟨⟩; rfl⟩
    · rw [ensures_bind, ensures_ofExcept]
      cases surroundings.fileUri _ with
      | error fault => exact ⟨unasked, by rintro _ ⟨⟩⟩
      | ok uri =>
          dsimp only
          rw [ensures_bind]
          refine (opens _ _ _ world).mono fun ending after posts => ?_
          cases ending with
          | error fault => exact ⟨unasked.posts posts, by rintro _ ⟨⟩⟩
          | ok opened => exact ⟨unasked.posts posts, by rintro _ ⟨⟩⟩

def Tabulates (_ : List Entry) (output : Terminal.Output) : Prop :=
  ∃ published, Terminal.diagnostics published = .ok output

/-- The result that the server has responded to the request is shown. -/
def Reports (method : Text) (params : Json) (later : List Entry) (output : Terminal.Output) : Prop :=
  ∃ result, output = Terminal.result result ∧ Obtained method params result later

/-- The session has been announced as ready, and no request was sent yet. -/
structure Conversing (settings : Settings) (welcomed : List Entry) (world : World) : Prop where
  solitary : Solitary settings world
  unasked : Unasked world
  since : welcomed <+: world.journal.entries

variable {welcomed : List Entry}

omit surroundings in
theorem Conversing.goes (conversing : Conversing settings welcomed world)
    (goes : Goes settings world world') (unasked : Unasked world') :
    Conversing settings welcomed world' := by
  obtain ⟨solitary, grown⟩ := goes conversing.solitary
  exact ⟨solitary, unasked, conversing.since.trans grown⟩

/-- A conversation goes on when the session has been announced as ready. -/
theorem connected_concludes {next : Act World Ending} (solitary : Solitary settings world)
    (unasked : Unasked world) (root : Option Text) (command : Text) (arguments : List Text)
    (goes_on : ∀ welcomed connected, Welcomed welcomed → Conversing settings welcomed connected →
      Ensures next connected (Concluded accomplished)) :
    Ensures (do
      if !(← connect surroundings root command arguments) then return .failed
      next) world (Concluded accomplished) := by
  have connects : Within (Goes settings) (connect surroundings root command arguments) :=
    connect_goes surroundings root command arguments
  rw [ensures_bind]
  refine ((connects world).and
    (connect_unasked surroundings unasked root command arguments)).mono ?_
  rintro ending connected ⟨goes, unasked, ready⟩
  obtain ⟨solitary, -⟩ := goes solitary
  cases ending with
  | error fault => exact concluded_error fault _
  | ok value =>
      cases value with
      | false => exact concluded_failure rfl _
      | true =>
          exact goes_on _ _ (solitary.welcomed (ready rfl)) ⟨solitary, unasked, List.prefix_rfl⟩

theorem opened_concludes {next : Act World Ending} (conversing : Conversing settings welcomed world)
    (target : Target)
    (goes_on : ∀ opened, Conversing settings welcomed opened →
      Ensures next opened (Concluded accomplished)) :
    Ensures (do
      match ← openTarget surroundings target with
      | some ending => return ending
      | none => next) world (Concluded accomplished) := by
  have opens : Within (Goes settings) (openTarget surroundings target) :=
    openTarget_goes surroundings target
  rw [ensures_bind]
  refine ((opens world).and (openTarget_unasked surroundings conversing.unasked target)).mono ?_
  rintro ending opened ⟨goes, unasked, fails⟩
  cases ending with
  | error fault => exact concluded_error fault _
  | ok found =>
      cases found with
      | some conclusion => exact concluded_failure (fails conclusion rfl) _
      | none => exact goes_on opened (conversing.goes goes unasked)

theorem converse_concludes (solitary : Solitary settings world) (unasked : Unasked world)
    (target : Target) (wait : Duration) (command : Text) (arguments : List Text) :
    Ensures (converse surroundings target wait command arguments) world
      (Concluded (Answered Tabulates)) := by
  refine connected_concludes surroundings solitary unasked _ _ _ fun welcomed connected welcome
    conversing => ?_
  have greets (output : Terminal.Output) : Ensures (display surroundings output) connected
      fun _ => Conversing settings welcomed :=
    ((display_goes surroundings output connected).and
      (display_unasked surroundings conversing.unasked output)).mono
        fun _ _ shown => conversing.goes shown.1 shown.2
  rw [ensures_bind]
  refine ensures_concluded (greets _) fun _ shown conversing => ?_
  refine opened_concludes surroundings conversing target fun opened conversing => ?_
  have awaits : Within (Goes settings) (awaitDiagnostics wait) := awaitDiagnostics_goes wait
  refine ensures_concluded ((awaits opened).mono fun _ awaited goes =>
    conversing.since.trans (goes conversing.solitary).2) fun published awaited since => ?_
  obtain ⟨later, since⟩ := since
  rw [ensures_bind, ensures_ofExcept]
  cases tabulated : Terminal.diagnostics published with
  | error fault => exact concluded_error fault _
  | ok output => exact display_concludes surroundings welcome since.symm ⟨published, tabulated⟩

theorem inquire_concludes (solitary : Solitary settings world) (unasked : Unasked world)
    (target : Target) (inquiry : Inquiry) (params : Json) (command : Text)
    (arguments : List Text) :
    Ensures (inquire surroundings target inquiry params command arguments) world
      (Concluded (Answered (Reports inquiry.method params))) := by
  refine connected_concludes surroundings solitary unasked _ _ _ fun welcomed connected welcome
    conversing => ?_
  refine opened_concludes surroundings conversing target fun opened conversing => ?_
  obtain ⟨later, since⟩ := conversing.since
  rw [ensures_bind]
  refine (requestSync_obtained (nestedCalls_post callDepth) conversing.unasked inquiry.method
    params inquiry.timeout).mono fun ending asked obtains => ?_
  cases ending with
  | error fault => exact concluded_error fault _
  | ok completion =>
      dsimp only
      split
      · next accepted =>
        obtain ⟨added, grown, obtained⟩ := obtains completion rfl accepted
        have since : asked.journal.entries = welcomed ++ (later ++ added) := by
          rw [grown, ← since, List.append_assoc]
        exact display_concludes surroundings welcome since ⟨_, rfl, obtained.since later⟩
      · have fails (output : Terminal.Output) : Ensures (display surroundings output) asked
            fun _ _ => True := trivial
        exact ensures_concluded (fails _) fun _ shown _ => concluded_failure rfl shown

/-! ## Runs of commands -/

/-- What the exit code of a command says, and what becomes of its servers. -/
structure Truthful (accomplished : List Entry → Prop) (report : Report) : Prop where
  closed : ∀ server, .serving (some server) ∈ report.entries →
    report.entries.countP (closes server) = 1
  misused : report.ending.exitCode = 2 → report.entries = []
  completed : report.ending.exitCode = 0 → accomplished report.entries

omit surroundings in
/-- However a conversation ends, the client is stopped. -/
theorem thenStop_concludes {conversation : Act World Ending} (solitary : Solitary settings world)
    (goes : Within (Goes settings) conversation)
    (concludes : Ensures conversation world (Concluded accomplished))
    (lasts : ∀ entries added, accomplished entries → accomplished (entries ++ added)) :
    Ensures (thenStop conversation) world fun ending after =>
      Solitary settings after ∧ after.session.server = none ∧ Concluded accomplished ending after := by
  unfold thenStop
  rw [ensures_bind, ensures_tryCatch]
  refine ((goes world).and concludes).mono ?_
  rintro ending talked ⟨goes, concludes⟩
  obtain ⟨solitary, -⟩ := goes solitary
  cases ending with
  | error fault =>
      refine (ensures_bind _ _ _).mpr ((stop_leaves solitary).mono ?_)
      rintro ending stopped ⟨solitary, nobody, -⟩
      cases ending with
      | ok value => exact ⟨solitary, nobody, concluded_error _ _⟩
      | error fault => exact ⟨solitary, nobody, concluded_error _ _⟩
  | ok conclusion =>
      refine (ensures_bind _ _ _).mpr ((stop_leaves solitary).mono ?_)
      rintro ending stopped ⟨solitary, nobody, added, grown⟩
      cases ending with
      | error fault => exact ⟨solitary, nobody, concluded_error _ _⟩
      | ok value =>
          refine ⟨solitary, nobody, ?_⟩
          rintro _ ⟨⟩
          obtain ⟨used, completed⟩ := concludes conclusion rfl
          exact ⟨used, fun zero => grown ▸ lasts _ added (completed zero)⟩

omit surroundings in
theorem runConversation_of_ok {conversation : Act World Ending} {ending : Ending} {after : World}
    (ran : result (thenStop conversation) world = (.ok ending, after)) :
    runConversation world conversation = { ending := ending, entries := after.journal.entries } := by
  have ran : ((thenStop conversation).run).run world = (.ok ending, after) := ran
  rw [runConversation, ran]

omit surroundings in
theorem runConversation_of_error {conversation : Act World Ending} {fault : Fault} {after : World}
    (ran : result (thenStop conversation) world = (.error fault, after)) :
    runConversation world conversation =
      { ending := .raised fault, entries := after.journal.entries } := by
  have ran : ((thenStop conversation).run).run world = (.error fault, after) := ran
  rw [runConversation, ran]

omit surroundings in
theorem runConversation_truthful {conversation : Act World Ending}
    (solitary : Solitary settings world) (goes : Within (Goes settings) conversation)
    (concludes : Ensures conversation world (Concluded accomplished))
    (lasts : ∀ entries added, accomplished entries → accomplished (entries ++ added)) :
    Truthful accomplished (runConversation world conversation) := by
  have stopped := thenStop_concludes solitary goes concludes lasts
  unfold Ensures at stopped
  rcases ran : result (thenStop conversation) world with ⟨outcome, after⟩
  rw [ran] at stopped
  obtain ⟨solitary, nobody, concluded⟩ := stopped
  cases outcome with
  | ok conclusion =>
      rw [runConversation_of_ok ran]
      obtain ⟨used, completed⟩ := concluded conclusion rfl
      exact ⟨fun server => solitary.closed nobody, fun two => (used two).elim, completed⟩
  | error fault =>
      rw [runConversation_of_error ran]
      exact ⟨fun server => solitary.closed nobody, by rintro ⟨⟩, by rintro ⟨⟩⟩

/-! ## Command lines -/

/-- What the exit code zero promises of a command. -/
def Accomplished (surroundings : Surroundings) : Call → List Entry → Prop
  | .servers, _ => True
  | .probe _ _, entries => Answered Tabulates entries
  | .request target inquiry, entries => ∃ params,
      requestParams surroundings target inquiry = .ok params ∧
        Answered (Reports inquiry.method params) entries

omit surroundings in
theorem truthful_of_idle {ending : Ending} (completed : ending.exitCode = 0 → accomplished []) :
    Truthful accomplished { ending := ending } :=
  ⟨by rintro server ⟨⟩, fun _ => rfl, completed⟩

omit surroundings in
theorem Truthful.mono {other : List Entry → Prop} {report : Report}
    (truthful : Truthful accomplished report)
    (implies : accomplished report.entries → other report.entries) : Truthful other report :=
  ⟨truthful.closed, truthful.misused, fun zero => implies (truthful.completed zero)⟩

theorem resolveServer_fails {target : Target} {ending : Ending}
    (fails : resolveServer surroundings target = .error ending) : ending.exitCode ≠ 0 := by
  unfold resolveServer at fails
  split at fails
  · cases fails
  · obtain rfl := Except.error.inj fails
    simp [Ending.exitCode]
  · split at fails
    · obtain rfl := Except.error.inj fails
      simp [Ending.exitCode]
    · split at fails
      · cases fails
      · obtain rfl := Except.error.inj fails
        simp [Ending.exitCode]

theorem requestParams_fails {target : Target} {inquiry : Inquiry} {ending : Ending}
    (fails : requestParams surroundings target inquiry = .error ending) : ending.exitCode ≠ 0 := by
  unfold requestParams at fails
  split at fails
  · split at fails
    · cases fails
    · obtain rfl := Except.error.inj fails
      simp [Ending.exitCode]
    · obtain rfl := Except.error.inj fails
      simp [Ending.exitCode]
  · split at fails
    · cases fails
    · obtain rfl := Except.error.inj fails
      simp [Ending.exitCode]
  · cases fails

theorem runServers_truthful : Truthful (fun _ => True) (runServers surroundings) := by
  unfold runServers
  split
  · exact truthful_of_idle fun _ => trivial
  · dsimp only
    split
    · exact truthful_of_idle fun _ => trivial
    · exact ⟨by simp, by rintro ⟨⟩, fun _ => trivial⟩

theorem runProbe_truthful (target : Target) (wait : Duration) :
    Truthful (Answered Tabulates) (runProbe surroundings target wait) := by
  unfold runProbe
  split
  · next ending fails =>
    exact truthful_of_idle fun zero => (resolveServer_fails surroundings fails zero).elim
  · exact runConversation_truthful (solitary_fresh surroundings _)
      (converse_goes surroundings target wait _ _)
      (converse_concludes surroundings (solitary_fresh surroundings _)
        (unasked_fresh surroundings _) target wait _ _)
      fun _ added answered => answered.append added

theorem runRequest_truthful (target : Target) (inquiry : Inquiry) :
    Truthful (Accomplished surroundings (.request target inquiry))
      (runRequest surroundings target inquiry) := by
  unfold runRequest
  split
  · next ending fails =>
    exact truthful_of_idle fun zero => (resolveServer_fails surroundings fails zero).elim
  · next command arguments resolved =>
    split
    · next ending fails =>
      exact truthful_of_idle fun zero => (requestParams_fails surroundings fails zero).elim
    · next params given =>
      have solitary := solitary_fresh surroundings (echoListeners target)
      have truthful := runConversation_truthful solitary
        (inquire_goes surroundings target inquiry params command arguments)
        (inquire_concludes surroundings solitary (unasked_fresh surroundings _) target inquiry params
          command arguments)
        fun _ added answered => answered.append added
      exact truthful.mono fun answered => ⟨params, given, answered⟩

theorem runCall_truthful (call : Call) :
    Truthful (Accomplished surroundings call) (runCall surroundings call) := by
  cases call with
  | servers => exact runServers_truthful surroundings
  | probe target wait => exact runProbe_truthful surroundings target wait
  | request target inquiry => exact runRequest_truthful surroundings target inquiry

/-- Help was asked for, or the command that was given was accomplished. -/
def Served (surroundings : Surroundings) (arguments : List Text) (ending : Ending)
    (entries : List Entry) : Prop :=
  ending = .helped ∨ ∃ opening call, readOpening arguments = .ok opening ∧
    readCall opening.command opening.arguments = .ok call ∧ Accomplished surroundings call entries

theorem refuse_truthful (arguments : List Text) (refusal : Refusal) :
    Truthful (Served surroundings arguments (refuse refusal)) { ending := refuse refusal } := by
  cases refusal with
  | help => exact truthful_of_idle fun _ => .inl rfl
  | misuse error => exact truthful_of_idle (by rintro ⟨⟩)

theorem perform_truthful (arguments : List Text) :
    Truthful (Served surroundings arguments (perform surroundings arguments).ending)
      (perform surroundings arguments) := by
  unfold perform
  cases opened : readOpening arguments with
  | error refusal => exact refuse_truthful surroundings arguments refusal
  | ok opening =>
      dsimp only
      split
      · exact truthful_of_idle (by rintro ⟨⟩)
      · unfold runOpened
        cases called : readCall opening.command opening.arguments with
        | error refusal =>
            have truthful := refuse_truthful surroundings arguments refusal
            exact ⟨truthful.closed, truthful.misused, truthful.completed⟩
        | ok call =>
            have truthful : Truthful (Served surroundings arguments (runCall surroundings call).ending)
                (runCall surroundings call) :=
              (runCall_truthful surroundings call).mono fun accomplished =>
                .inr ⟨opening, call, opened, called, accomplished⟩
            exact ⟨truthful.closed, truthful.misused, truthful.completed⟩

omit surroundings in
theorem announced_cases (ending : Ending) :
    ending.announced = ending ∨ ∃ fault, ending.announced = .raised fault := by
  unfold Ending.announced
  split
  · exact .inr ⟨_, rfl⟩
  · exact .inl rfl

end

/-- A server that declines the session, with an error that has no members. -/
def declining : Surroundings where
  conduct.replies message :=
    match message.member "method" with
    | .string method =>
      if method = "initialize" then
        (Frame.encode (.object [("id", message.member "id"), ("error", .object [])])).toOption.toList
      else []
    | _ => []

def declines : Entry → Bool
  | .handling _ message => responds message (.nat 1) && message.hasMember "error"
  | _ => false

end CommandLine

end LanguageSession
