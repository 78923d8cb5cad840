import Mathlib
import LanguageSession.Proofs.Client.Broad
import LanguageSession.Proofs.Client.Streams

/-!
# What listeners are told of readiness

Whatever listeners do, a session is announced as ready and as ready no more in turns, and the
last announcement agrees with its state.  Whoever listens all the time is told of each
announcement once, but a listener in front may make the next announcement while it is told of one,
and then those behind are told of the later one first.
-/

namespace LanguageSession

namespace Client

open Act

/-! ## Announcements -/

def announcement? : Entry → Option Bool
  | .emitted (.ready value) => some value
  | _ => none

def announcements (entries : List Entry) : List Bool := entries.filterMap announcement?

/-- What a listener was told of readiness by this entry. -/
def told? (who : Nat) : Entry → Option Bool
  | .called other _ _ [.bool value] => if other = who then some value else none
  | _ => none

def toldTo (who : Nat) (entries : List Entry) : List Bool := entries.filterMap (told? who)

/-- Each value is the opposite of the one before, from the first to the last. -/
def Alternates : Bool → List Bool → Bool → Prop
  | first, [], last => last = first
  | first, value :: rest, last => value = !first ∧ Alternates value rest last

theorem Alternates.append {first middle last : Bool} {values later : List Bool}
    (before : Alternates first values middle) (after : Alternates middle later last) :
    Alternates first (values ++ later) last := by
  induction values generalizing first with
  | nil =>
      obtain rfl : middle = first := before
      exact after
  | cons value rest ih => exact ⟨before.1, ih before.2⟩

/-- Nothing is announced, and the listener is told nothing. -/
def Still (who : Nat) (entry : Entry) : Prop := announcement? entry = none ∧ told? who entry = none

theorem Reticent.still {entry : Entry} (reticent : Reticent entry) (who : Nat) : Still who entry := by
  cases entry with
  | emitted event =>
      cases event with
      | ready value => cases reticent
      | _ => exact ⟨rfl, rfl⟩
  | called other kind name arguments => cases reticent
  | _ => exact ⟨rfl, rfl⟩

theorem Marks.still {entry : Entry} (marks : Marks entry) (who : Nat) : Still who entry := by
  cases entry <;> first | exact ⟨rfl, rfl⟩ | cases marks

theorem announcements_still {who : Nat} {entries : List Entry}
    (still : ∀ entry ∈ entries, Still who entry) : announcements entries = [] :=
  List.filterMap_eq_nil_iff.mpr fun entry member => (still entry member).1

theorem toldTo_still {who : Nat} {entries : List Entry}
    (still : ∀ entry ∈ entries, Still who entry) : toldTo who entries = [] :=
  List.filterMap_eq_nil_iff.mpr fun entry member => (still entry member).2

/-- Before anything is announced a script has begun to run. -/
def Prompted (entries : List Entry) : Prop :=
  ∀ before entry after, entries = before ++ entry :: after → announcement? entry ≠ none →
    ∃ operation, .doing operation ∈ before

/-- The first of the listeners in front is told the value. -/
def Led (who : Nat) (value : Bool) (front : List Entry) : Prop :=
  front = [] ∨ ∃ other kind name rest,
    other < who ∧ front = .called other kind name [.bool value] :: rest

/-- The listener is told of each announcement once those in front of it have been told. -/
inductive Informs (who : Nat) : List Entry → Prop
  | nothing : Informs who []
  | still {entries : List Entry} {entry : Entry} (before : Informs who entries)
      (still : Still who entry) : Informs who (entries ++ [entry])
  | told {entries front : List Entry} (before : Informs who entries) (value : Bool)
      (nested : Informs who front) (led : Led who value front) (prompted : Prompted front)
      (kind name : Text) : Informs who
        (entries ++ (.emitted (.ready value) :: front ++ [.called who kind name [.bool value]]))

/--
A value is announced while a listener in front acts that is told of another one, and so before
this listener is told of that.
-/
def Overtaken (who : Nat) (entries : List Entry) : Prop :=
  ∃ before value other kind name between later after, entries =
      before ++ .emitted (.ready value) :: .called other kind name [.bool value] :: between ++
        .emitted (.ready later) :: after ∧
    other < who ∧ (∀ entry ∈ between, Still who entry) ∧ ∃ operation, .doing operation ∈ between

section

variable {who : Nat} {entries later : List Entry}

@[simp] theorem announcements_append :
    announcements (entries ++ later) = announcements entries ++ announcements later :=
  List.filterMap_append

@[simp] theorem toldTo_append : toldTo who (entries ++ later) = toldTo who entries ++ toldTo who later :=
  List.filterMap_append

theorem announcements_telling (value : Bool) (front : List Entry) (kind name : Text) :
    announcements (.emitted (.ready value) :: front ++ [.called who kind name [.bool value]]) =
      value :: announcements front := by
  simp [announcements, announcement?]

theorem toldTo_telling (value : Bool) (front : List Entry) (kind name : Text) :
    toldTo who (.emitted (.ready value) :: front ++ [.called who kind name [.bool value]]) =
      toldTo who front ++ [value] := by
  simp only [toldTo, List.cons_append, List.filterMap_cons, List.filterMap_append, told?, if_true,
    List.filterMap_nil]

theorem Informs.append (informs : Informs who entries) (informs' : Informs who later) :
    Informs who (entries ++ later) := by
  induction informs' with
  | nothing => simpa using informs
  | still before still ih =>
      rw [← List.append_assoc]
      exact ih.still still
  | told before value nested led prompted kind name ih =>
      rw [← List.append_assoc]
      exact ih.told value nested led prompted kind name

theorem informs_of_still (still : ∀ entry ∈ entries, Still who entry) : Informs who entries := by
  induction entries using List.reverseRecOn with
  | nil => exact .nothing
  | append_singleton entries entry ih =>
      exact (ih fun other member => still other (by simp [member])).still (still entry (by simp))

theorem Informs.perm (informs : Informs who entries) :
    (toldTo who entries).Perm (announcements entries) := by
  induction informs with
  | nothing => exact .nil
  | @still _ entry before still ih =>
      have quiet : ∀ other ∈ [entry], Still who other := by simpa using still
      rw [announcements_append, toldTo_append, announcements_still quiet, toldTo_still quiet,
        List.append_nil, List.append_nil]
      exact ih
  | told before value nested led prompted kind name ih ih' =>
      rw [announcements_append, toldTo_append, announcements_telling, toldTo_telling]
      exact ih.append ((List.perm_append_singleton value _).trans (ih'.cons value))

/-- Up to the first announcement the listener is told nothing. -/
theorem Informs.first (informs : Informs who entries) : (∀ entry ∈ entries, Still who entry) ∨
    ∃ between value rest, entries = between ++ .emitted (.ready value) :: rest ∧
      ∀ entry ∈ between, Still who entry := by
  induction informs with
  | nothing => simp
  | still before still ih =>
      rcases ih with quiet | ⟨between, value, rest, rfl, quiet⟩
      · exact .inl (by simpa [or_imp, forall_and, still] using quiet)
      · exact .inr ⟨between, value, _, List.append_assoc _ _ _, quiet⟩
  | told before value nested led prompted kind name ih _ =>
      rcases ih with quiet | ⟨between, value', rest, rfl, quiet⟩
      · exact .inr ⟨_, value, _, rfl, quiet⟩
      · exact .inr ⟨between, value', _, List.append_assoc _ _ _, quiet⟩

theorem Overtaken.append (overtaken : Overtaken who entries) (added : List Entry) :
    Overtaken who (entries ++ added) := by
  obtain ⟨before, value, other, kind, name, between, later, after, rfl, less, still, prompted⟩ :=
    overtaken
  exact ⟨before, value, other, kind, name, between, later, after ++ added, by simp, less, still,
    prompted⟩

theorem Informs.eq_or_overtaken (informs : Informs who entries) :
    toldTo who entries = announcements entries ∨ Overtaken who entries := by
  induction informs with
  | nothing => exact .inl rfl
  | @still _ entry before still ih =>
      have quiet : ∀ other ∈ [entry], Still who other := by simpa using still
      refine ih.imp (fun same => ?_) fun overtaken => overtaken.append _
      rw [announcements_append, toldTo_append, same, announcements_still quiet, toldTo_still quiet]
  | @told earlier front before value nested led prompted kind name ih _ =>
      rcases ih with same | overtaken
      · rcases nested.first with quiet | ⟨between, later, rest, rfl, quiet⟩
        · rw [announcements_append, toldTo_append, announcements_telling, toldTo_telling, same,
            announcements_still quiet, toldTo_still quiet]
          exact .inl rfl
        · -- Something is announced in front, so somebody stands there and acts.
          obtain ⟨operation, acts⟩ := prompted between _ rest rfl (by simp [announcement?])
          rcases led with nobody | ⟨other, kind', name', front, less, begins⟩
          · simp at nobody
          · cases between with
            | nil => simp at acts
            | cons entry between =>
                obtain ⟨rfl, rfl⟩ := List.cons.inj begins
                refine .inr ⟨earlier, value, other, kind', name', between, later, _, by simp; rfl,
                  less, fun entry member => quiet entry (by simp [member]), operation, ?_⟩
                simpa using acts
      · exact .inr (overtaken.append _)

end

/-! ## Who listens -/

def World.Hears (world : World) (who : Nat) : Prop := .callback who ∈ world.subscriptions.ready

/-- Those who listen for readiness are callbacks, the older ones in front. -/
def Lined (world : World) : Prop := ∃ numbers : List Nat,
  world.subscriptions.ready = numbers.map .callback ∧ numbers.Pairwise (· < ·) ∧
    ∀ number ∈ numbers, number < world.cast.callbacks.length

/-- What a listener perceives of what is done. -/
structure Attending (who : Nat) (world : World) (added : List Entry) (world' : World) : Prop where
  lined : Lined world'
  grown : world'.journal.entries = world.journal.entries ++ added
  callbacks : world.cast.callbacks.length ≤ world'.cast.callbacks.length
  /-- Nobody comes back who has left. -/
  kept : ∀ other < world.cast.callbacks.length, world'.Hears other → world.Hears other
  alternates : Alternates world.session.ready (announcements added) world'.session.ready
  informs : world.Hears who → world'.Hears who → Informs who added

def Attends (who : Nat) (world world' : World) : Prop :=
  Lined world → ∃ added, Attending who world added world'

section

variable {who : Nat} {world world' world'' : World} {added later : List Entry}

theorem Lined.lt (lined : Lined world) (hears : world.Hears who) :
    who < world.cast.callbacks.length := by
  obtain ⟨numbers, same, -, known⟩ := lined
  rw [World.Hears, same, List.mem_map] at hears
  obtain ⟨number, member, equal⟩ := hears
  obtain rfl : number = who := by simpa using equal
  exact known number member

theorem Attending.trans (lined : Lined world) (first : Attending who world added world')
    (second : Attending who world' later world'') : Attending who world (added ++ later) world'' where
  lined := second.lined
  grown := by rw [second.grown, first.grown, List.append_assoc]
  callbacks := first.callbacks.trans second.callbacks
  kept other less hears :=
    first.kept other less (second.kept other (less.trans_le first.callbacks) hears)
  alternates := by
    rw [announcements_append]
    exact first.alternates.append second.alternates
  informs hears hears' := by
    have between := second.kept who ((lined.lt hears).trans_le first.callbacks) hears'
    exact (first.informs hears between).append (second.informs between hears')

theorem Attending.refl (who : Nat) (lined : Lined world) : Attending who world [] world :=
  ⟨lined, (List.append_nil _).symm, le_rfl, fun _ _ => id, rfl, fun _ _ => .nothing⟩

instance (who : Nat) : IsPreorder World (Attends who) where
  refl world lined := ⟨[], .refl who lined⟩
  trans _ _ _ first second lined := by
    obtain ⟨added, first⟩ := first lined
    obtain ⟨later, second⟩ := second first.lined
    exact ⟨added ++ later, first.trans lined second⟩

theorem Lined.of_sublist (lined : Lined world)
    (callbacks : world.cast.callbacks.length ≤ world'.cast.callbacks.length)
    (remain : world'.subscriptions.ready.Sublist world.subscriptions.ready) : Lined world' := by
  obtain ⟨numbers, same, ordered, known⟩ := lined
  rw [same] at remain
  obtain ⟨numbers', fewer, same'⟩ := List.sublist_map_iff.mp remain
  exact ⟨numbers', same', ordered.sublist fewer, fun number member =>
    (known number (fewer.subset member)).trans_le callbacks⟩

theorem attending_of_still (grown : world'.journal.entries = world.journal.entries ++ added)
    (still : ∀ entry ∈ added, Still who entry)
    (ready : world'.session.ready = world.session.ready)
    (callbacks : world.cast.callbacks.length ≤ world'.cast.callbacks.length)
    (remain : world'.subscriptions.ready.Sublist world.subscriptions.ready)
    (lined : Lined world) : Attending who world added world' := by
  refine ⟨lined.of_sublist callbacks remain, grown, callbacks,
    fun _ _ hears => remain.subset hears, ?_, fun _ _ => informs_of_still still⟩
  rw [announcements_still still]
  exact ready

theorem attends_of_journal (journal : world'.journal = world.journal)
    (ready : world'.session.ready = world.session.ready)
    (callbacks : world.cast.callbacks.length ≤ world'.cast.callbacks.length)
    (remain : world'.subscriptions.ready.Sublist world.subscriptions.ready) :
    Attends who world world' := fun lined =>
  ⟨[], attending_of_still (by rw [journal, List.append_nil]) (by simp) ready callbacks remain lined⟩

theorem attending_noting {entry : Entry} (still : Still who entry) (lined : Lined world) :
    Attending who world [entry] (world.noting entry) :=
  attending_of_still rfl (by simpa using still) rfl le_rfl (List.Sublist.refl _) lined

theorem attends_noting {entry : Entry} (still : Still who entry) (world : World) :
    Attends who world (world.noting entry) := fun lined => ⟨[entry], attending_noting still lined⟩

instance (who : Nat) : Broad (Attends who) where
  noting world _ reticent := attends_noting (reticent.still who) world
  serving _ _ := attends_of_journal rfl rfl le_rfl (List.Sublist.refl _)
  renewing _ _ ready _ _ := attends_of_journal rfl ready le_rfl (List.Sublist.refl _)
  keeping _ _ journal session _ callbacks subscriptions _ _ :=
    attends_of_journal journal (by rw [session]) (by rw [callbacks]) (by rw [subscriptions])

theorem attends_hosts (who : Nat) : Hosts (Attends who) :=
  obliging_hosts fun world _ marks => attends_noting (marks.still who) world

theorem adoptServer_attends (argv : List Text) : Within (Attends who) (adoptServer argv) :=
  fun _ lined => ⟨[_], attending_of_still rfl (by simp [Still, announcement?, told?]) rfl le_rfl
    (List.Sublist.refl _) lined⟩

theorem attends_awaits (who : Nat) (handler : Handler) : Awaits (Attends who) handler := by
  refine awaits_of_awaited fun world id => ?_
  have waits : Attends who world { world with session := { world.session with
      pending := ⟨Registry.insert (.nat id) handler world.session.pending.entries⟩ } } :=
    attends_of_journal rfl rfl le_rfl (List.Sublist.refl _)
  cases handler with
  | callback other =>
      exact trans_of (Attends who) waits (Broad.noting _ (.awaiting other id _) trivial)
  | _ => exact waits

theorem attends_adding (callback : Callback Step) : Attends who world (world.adding callback) :=
  attends_of_journal rfl rfl (by simp [World.adding]) (List.Sublist.refl _)

theorem attends_enlisting (channel : Channel) (listener : Callback Step) :
    Attends who world (world.enlisting channel listener) := by
  have longer : (world.enlisting channel listener).cast.callbacks.length =
      world.cast.callbacks.length + 1 := by
    simp [World.enlisting, World.adding]
  cases channel with
  | log => exact attends_of_journal rfl rfl (by omega) (List.Sublist.refl _)
  | diagnostics => exact attends_of_journal rfl rfl (by omega) (List.Sublist.refl _)
  | ready =>
      have joined : (world.enlisting .ready listener).subscriptions.ready =
          world.subscriptions.ready ++ [.callback world.cast.callbacks.length] := rfl
      rintro ⟨numbers, same, ordered, known⟩
      refine ⟨[], ⟨numbers ++ [world.cast.callbacks.length], ?_, ?_, ?_⟩,
        (List.append_nil _).symm, by omega, ?_, rfl, fun _ _ => .nothing⟩
      · rw [joined, same, List.map_append, List.map_singleton]
      · rw [List.pairwise_append]
        exact ⟨ordered, List.pairwise_singleton _ _, by simpa using known⟩
      · intro number member
        rcases List.mem_append.mp member with earlier | last
        · have := known number earlier
          omega
        · obtain rfl := List.mem_singleton.mp last
          omega
      · intro other less hears
        have hears : .callback other ∈ world.subscriptions.ready ++
            [Listener.callback world.cast.callbacks.length] := joined ▸ hears
        rcases List.mem_append.mp hears with earlier | last
        · exact earlier
        · obtain rfl : other = world.cast.callbacks.length := by simpa using last
          exact (lt_irrefl _ less).elim

theorem attends_leaving (channel : Channel) (listener : Listener) : Attends who world
    { world with subscriptions := world.subscriptions.unsubscribe channel listener } := by
  refine attends_of_journal rfl rfl le_rfl ?_
  cases channel with
  | ready => exact List.erase_sublist
  | _ => exact List.Sublist.refl _

/-! ## Nested calls -/

structure Attentive (who : Nat) (nested : Nested) : Prop where
  perform : ∀ step, Within (Attends who) (nested.perform step)
  receive : ∀ server data, Within (Attends who) (nested.receive server data)

variable {nested : Nested} (attentive : Attentive who nested)

include attentive

theorem invoke_attends {other : Nat} {arguments : List Json}
    (silent : ∀ kind name, Still who (.called other kind name arguments)) :
    Within (Attends who) (invoke Step.operation nested.perform other arguments) := fun world =>
  (attends_hosts who).invoke arguments
    (fun callback _ => attends_noting (silent callback.kind callback.name) world)
    fun _ _ step _ => attentive.perform step

/-- Events of other channels tell nobody of readiness. -/
theorem emit_attends (event : Event) (other : event.channel ≠ .ready) :
    Within (Attends who) (emit nested event) := by
  intro world
  have reticent : Reticent (.emitted event) := by
    cases event with
    | ready value => exact (other rfl).elim
    | _ => trivial
  refine ensures_emit_since (Broad.noting world _ reticent) fun listener _ world' _ => ?_
  cases listener with
  | callback number =>
      refine invoke_attends attentive (fun kind name => ⟨rfl, ?_⟩) world'
      cases event with
      | ready value => exact (other rfl).elim
      | log text => rfl
      | diagnostics uri items => rfl
  | echo =>
      cases event with
      | log text => exact within_mild (show Mild (.shown _) from trivial) world'
      | _ => exact refl_of (Attends who) world'
  | collect =>
      cases event with
      | diagnostics uri items => exact attends_of_journal rfl rfl le_rfl (List.Sublist.refl _)
      | _ => exact refl_of (Attends who) world'

/-! ## Telling of readiness -/

omit attentive in
theorem Prompted.append (prompted : Prompted added) (prompted' : Prompted later) :
    Prompted (added ++ later) := by
  intro before entry after split announces
  rcases List.append_eq_append_iff.mp split with ⟨middle, rfl, same⟩ | ⟨middle, rfl, same⟩
  · obtain ⟨operation, member⟩ := prompted' middle entry after same announces
    exact ⟨operation, List.mem_append_right _ member⟩
  · cases middle with
    | nil =>
        obtain ⟨operation, ⟨⟩⟩ := prompted' [] entry after same.symm announces
    | cons first rest =>
        obtain ⟨rfl, rfl⟩ := List.cons.inj same
        exact prompted before entry rest rfl announces

omit attentive in
theorem prompted_of_silent (silent : ∀ entry ∈ added, announcement? entry = none) :
    Prompted added := by
  rintro before entry after rfl announces
  exact (announces (silent entry (by simp))).elim

omit attentive in
theorem prompted_of_doing (operation : Text) (later : List Entry) :
    Prompted (.doing operation :: later) := by
  intro before entry after split announces
  cases before with
  | nil =>
      obtain ⟨rfl, -⟩ := List.cons.inj split
      exact (announces rfl).elim
  | cons first rest =>
      obtain ⟨rfl, -⟩ := List.cons.inj split
      exact ⟨operation, List.mem_cons_self⟩

omit attentive in
theorem Led.append {value : Bool} (led : Led who value added) (led' : Led who value later) :
    Led who value (added ++ later) := by
  rcases led with rfl | ⟨other, kind, name, rest, less, rfl⟩
  · exact led'
  · exact .inr ⟨other, kind, name, rest ++ later, less, rfl⟩

def Prompts (who : Nat) (world world' : World) : Prop :=
  Lined world → ∃ added, Attending who world added world' ∧ Prompted added

def Fronts (who : Nat) (value : Bool) (world world' : World) : Prop :=
  Lined world → ∃ added, Attending who world added world' ∧ Prompted added ∧ Led who value added

instance (who : Nat) : IsPreorder World (Prompts who) where
  refl _ lined := ⟨[], .refl who lined, by simp [Prompted]⟩
  trans _ _ _ first second lined := by
    obtain ⟨added, first, prompted⟩ := first lined
    obtain ⟨later, second, prompted'⟩ := second first.lined
    exact ⟨added ++ later, first.trans lined second, prompted.append prompted'⟩

instance (who : Nat) (value : Bool) : IsPreorder World (Fronts who value) where
  refl _ lined := ⟨[], .refl who lined, by simp [Prompted], .inl rfl⟩
  trans _ _ _ first second lined := by
    obtain ⟨added, first, prompted, led⟩ := first lined
    obtain ⟨later, second, prompted', led'⟩ := second first.lined
    exact ⟨added ++ later, first.trans lined second, prompted.append prompted', led.append led'⟩

omit attentive in
theorem prompts_of_journal (journal : world'.journal = world.journal)
    (ready : world'.session.ready = world.session.ready)
    (callbacks : world.cast.callbacks.length ≤ world'.cast.callbacks.length)
    (remain : world'.subscriptions.ready.Sublist world.subscriptions.ready) :
    Prompts who world world' := fun lined =>
  ⟨[], attending_of_still (by rw [journal, List.append_nil]) (by simp) ready callbacks remain lined,
    by simp [Prompted]⟩

instance (who : Nat) : Lenient (Prompts who) where
  slighting world entry slight lined := by
    have still := slight.mild.reticent.still who
    exact ⟨[entry], attending_noting still lined, prompted_of_silent (by simpa using still.1)⟩
  weakening _ _ _ _ := prompts_of_journal rfl rfl le_rfl (List.Sublist.refl _)

/-- A script announces nothing before its first step is marked. -/
theorem runScript_prompts (script : List Step) :
    Within (Prompts who) (runScript Step.operation nested.perform script) := by
  cases script with
  | nil => exact within_pure _
  | cons step rest =>
      have later : Within (Attends who) (do
          let result ← nested.perform step
          write (.did step.operation result)
          rest.forM (scripted nested) : Act World Unit) := by
        refine Within.bind (attentive.perform step) fun result => ?_
        refine Within.bind (attends_noting ⟨rfl, rfl⟩) fun _ => ?_
        exact (attends_hosts who).runScript fun step _ => attentive.perform step
      intro world
      have begins : runScript Step.operation nested.perform (step :: rest) =
          write (.doing step.operation) >>= fun _ => (do
            let result ← nested.perform step
            write (.did step.operation result)
            rest.forM (scripted nested) : Act World Unit) := by
        change scripted nested step >>= (fun _ => rest.forM (scripted nested)) = _
        simp only [scripted, bind_assoc]
      rw [begins, ensures_bind]
      simp only [ensures_write, add_eq_noting]
      refine (later (world.noting (.doing step.operation))).mono fun _ _ attends lined => ?_
      have marked : Attending who world [.doing step.operation]
          (world.noting (.doing step.operation)) := attending_noting ⟨rfl, rfl⟩ lined
      obtain ⟨added, attending⟩ := attends marked.lined
      exact ⟨_, marked.trans lined attending, prompted_of_doing _ _⟩

theorem proceed_prompts (other : Nat) (callback : Callback Step) (arguments : List Json) :
    Within (Prompts who) (proceed Step.operation nested.perform other callback arguments) := by
  refine proceed_within arguments (fun world => ?_) (runScript_prompts attentive callback.script)
  exact prompts_of_journal rfl rfl le_rfl (List.Sublist.refl _)

/-- A listener is told of an event, and it is noted if this fails. -/
def inform (nested : Nested) (event : Event) (listener : Listener) : Act World Unit :=
  contain (tell nested listener event) do record (Log.listenerFailed (← listenerLabel listener))

theorem inform_prompts {other : Nat} {callback : Callback Step} {value : Bool}
    (known : world.cast.callbacks[other]? = some callback) :
    Ensures (inform nested (.ready value) (.callback other)) world fun _ =>
      Prompts who (world.noting (.called other callback.kind callback.name [.bool value])) := by
  unfold inform contain
  rw [ensures_tryCatch]
  change Ensures (invoke Step.operation nested.perform other [.bool value]) world _
  rw [ensures_invoke known]
  refine (proceed_prompts attentive other callback _ _).mono fun ending _ prompts => ?_
  cases ending with
  | ok _ => exact prompts
  | error fault => exact (reportListener_within _).later prompts

theorem inform_fronts {other : Nat} (less : other < who) (value : Bool) :
    Within (Fronts who value) (inform nested (.ready value) (.callback other)) := by
  intro world
  cases known : world.cast.callbacks[other]? with
  | none =>
      have nothing : inform nested (.ready value) (.callback other) =
          contain (invoke Step.operation nested.perform other [.bool value])
            (do record (Log.listenerFailed (← listenerLabel (.callback other)))) := rfl
      rw [nothing, contain, ensures_tryCatch]
      simp only [invoke, ensures_bind, ensures_getCast, known]
      exact refl_of (Fronts who value) world
  | some callback =>
      refine (inform_prompts attentive known).mono fun _ _ prompts lined => ?_
      have called : Attending who world [.called other callback.kind callback.name [.bool value]]
          (world.noting (.called other callback.kind callback.name [.bool value])) :=
        attending_noting ⟨rfl, if_neg less.ne⟩ lined
      obtain ⟨added, attending, prompted⟩ := prompts called.lined
      refine ⟨_, called.trans lined attending, Prompted.append ?_ prompted, .inr ?_⟩
      · exact prompted_of_silent (by simp [announcement?])
      · exact ⟨other, callback.kind, callback.name, added, less, rfl⟩

theorem inform_attends {other : Nat} (apart : other ≠ who) (value : Bool) :
    Within (Attends who) (inform nested (.ready value) (.callback other)) := by
  refine Within.tryCatch ?_ fun _ => reportListener_within _
  exact invoke_attends attentive fun _ _ => ⟨rfl, if_neg apart⟩

omit attentive in
theorem inform_succeeds (event : Event) (listener : Listener) :
    Succeeds (inform nested event listener) := contained_succeeds listener event

/-! ## Changes of readiness -/

/-- The session has become ready, or ready no more, and the listeners are about to be told. -/
structure Turning (value : Bool) (world : World) (notes : List Entry) (world' : World) : Prop where
  grown : world'.journal.entries = world.journal.entries ++ notes
  reticent : ∀ note ∈ notes, Reticent note
  changes : value = !world.session.ready
  ready : world'.session.ready = value
  cast : world'.cast = world.cast
  subscriptions : world'.subscriptions = world.subscriptions

variable {value : Bool} {notes : List Entry}

omit attentive in
theorem Turning.alternates (turning : Turning value world notes world')
    (alternates : Alternates value (announcements added) world''.session.ready) (kind name : Text) :
    Alternates world.session.ready (announcements (notes ++ (.emitted (.ready value) :: added ++
      [.called who kind name [.bool value]]))) world''.session.ready := by
  have silent := announcements_still fun entry member => (turning.reticent entry member).still who
  rw [announcements_append, silent, announcements_telling]
  exact ⟨turning.changes, alternates⟩

omit attentive in
theorem Turning.hears (turning : Turning value world notes world') :
    world'.Hears who ↔ world.Hears who := by
  rw [World.Hears, World.Hears, turning.subscriptions]

omit attentive in
theorem Turning.lined (turning : Turning value world notes world') (lined : Lined world) :
    Lined world' := by
  rw [Lined, turning.subscriptions, turning.cast]
  exact lined

omit attentive in
/-- The listener is told after those in front of it. -/
theorem Turning.told (turning : Turning value world notes world')
    (attending : Attending who (world'.noting (.emitted (.ready value))) added world'')
    (prompted : Prompted added) (led : Led who value added) (kind name : Text) :
    Attending who world
      (notes ++ (.emitted (.ready value) :: added ++ [.called who kind name [.bool value]]))
      (world''.noting (.called who kind name [.bool value])) where
  lined := attending.lined
  grown := by simp [attending.grown, turning.grown]
  callbacks := turning.cast ▸ attending.callbacks
  kept other less hears := by
    have known : other < (world'.noting (.emitted (.ready value))).cast.callbacks.length := by
      rw [noting_cast, turning.cast]
      exact less
    exact turning.hears.mp (attending.kept other known hears)
  alternates := by
    have alternates := attending.alternates
    rw [noting_session, turning.ready] at alternates
    exact turning.alternates alternates kind name
  informs hears hears' := by
    have still := informs_of_still fun entry member => (turning.reticent entry member).still who
    exact still.told value (attending.informs (turning.hears.mpr hears) hears') led prompted
      kind name

omit attentive in
theorem Turning.unheard (turning : Turning value world notes world') (lined : Lined world)
    (deaf : ¬ world.Hears who) :
    Attends who world (world'.noting (.emitted (.ready value))) := by
  have silent := announcements_still fun entry member => (turning.reticent entry member).still who
  refine fun _ => ⟨notes ++ [.emitted (.ready value)], turning.lined lined, ?_, ?_, ?_, ?_, ?_⟩
  · simp [turning.grown]
  · rw [noting_cast, turning.cast]
  · exact fun _ _ => turning.hears.mp
  · rw [announcements_append, silent, noting_session, turning.ready]
    exact ⟨turning.changes, rfl⟩
  · exact fun hears => (deaf hears).elim

theorem informs_others {others : List Nat} (apart : ∀ other ∈ others, other ≠ who) (value : Bool) :
    Within (Attends who)
      ((others.map .callback).forM (inform nested (.ready value))) := by
  refine Within.forM fun listener member => ?_
  obtain ⟨other, known, rfl⟩ := List.mem_map.mp member
  exact inform_attends attentive (apart other known) value

/-- The listener is told between those in front of it and those behind. -/
theorem informs_attends {front back : List Nat} (turning : Turning value world notes world')
    (lined : Lined world) (known : who < world.cast.callbacks.length)
    (before : ∀ other ∈ front, other < who) (behind : ∀ other ∈ back, other ≠ who) :
    Ensures (((front ++ who :: back).map .callback).forM (inform nested (.ready value)))
      (world'.noting (.emitted (.ready value))) fun _ => Attends who world := by
  have fronts : Within (Fronts who value)
      ((front.map .callback).forM (inform nested (.ready value))) := by
    refine Within.forM fun listener member => ?_
    obtain ⟨other, known, rfl⟩ := List.mem_map.mp member
    exact inform_fronts attentive (before other known) value
  have succeeds : Succeeds ((front.map .callback).forM (inform nested (.ready value))) :=
    Succeeds.forM fun listener => inform_succeeds _ listener
  have parts : ((front ++ who :: back).map .callback).forM (inform nested (.ready value)) = (do
      (front.map .callback).forM (inform nested (.ready value))
      inform nested (.ready value) (.callback who)
      (back.map .callback).forM (inform nested (.ready value)) : Act World Unit) := by
    rw [List.map_append]
    exact List.forM_append
  rw [parts]
  refine succeeds.ensures_bind (fronts _) fun _ reached fronted => ?_
  obtain ⟨added, attending, prompted, led⟩ := fronted (turning.lined lined)
  have longer : who < reached.cast.callbacks.length := by
    have grown := attending.callbacks
    rw [noting_cast, turning.cast] at grown
    exact known.trans_le grown
  obtain ⟨callback, found⟩ : ∃ callback, reached.cast.callbacks[who]? = some callback :=
    ⟨_, List.getElem?_eq_getElem longer⟩
  have told := turning.told attending prompted led callback.kind callback.name
  refine (inform_succeeds _ _).ensures_bind (inform_prompts attentive found) fun _ _ prompts => ?_
  refine (informs_others attentive behind value).later fun lined => ?_
  obtain ⟨later, attending', -⟩ := prompts told.lined
  exact ⟨_, told.trans lined attending'⟩

theorem emit_turning (turning : Turning value world notes world') :
    Ensures (emit nested (.ready value)) world' fun _ => Attends who world := by
  refine fun lined => ?_
  have emission : emit nested (.ready value) = (do
      let subscriptions ← getThe (Subscriptions Listener)
      write (.emitted (.ready value))
      subscriptions.ready.forM (inform nested (.ready value)) : Act World Unit) := rfl
  suffices told : Ensures (emit nested (.ready value)) world' fun _ => Attends who world from
    told lined
  obtain ⟨numbers, same, ordered, known⟩ := lined
  have lined : Lined world := ⟨numbers, same, ordered, known⟩
  rw [emission]
  simp only [ensures_bind, ensures_getSubscriptions, ensures_write, add_eq_noting]
  rw [turning.subscriptions, same]
  by_cases hears : who ∈ numbers
  · obtain ⟨front, back, rfl⟩ := List.append_of_mem hears
    obtain ⟨-, ordered', before⟩ := List.pairwise_append.mp ordered
    refine informs_attends attentive turning lined (known who hears) ?_ ?_
    · exact fun other member => before other member who List.mem_cons_self
    · exact fun other member => (List.rel_of_pairwise_cons ordered' member).ne'
  · have deaf : ¬ world.Hears who := by
      rw [World.Hears, same]
      simpa using hears
    refine (informs_others attentive ?_ value).later (turning.unheard lined deaf)
    rintro other member rfl
    exact hears member

theorem setReady_attends (ready : Bool) : Within (Attends who) (setReady nested ready) := by
  intro world
  simp only [setReady, ensures_bind, ensures_getSession]
  split
  · exact refl_of (Attends who) world
  · next other =>
    have changes : ready = !world.session.ready := by
      revert other
      cases ready <;> cases world.session.ready <;> simp
    have turning : Turning ready world []
        { world with session := { world.session with ready := ready } } :=
      ⟨(List.append_nil _).symm, by simp, changes, rfl, rfl, rfl⟩
    simp only [ensures_bind, ensures_modifySession]
    split
    · simp only [setPhase, ensures_bind, ensures_getSession]
      split
      · exact emit_turning attentive turning
      · have noted : Turning ready world
            [.logged (Log.stateChange world.session.phase.name Phase.ready.name)]
            (World.noting { world with session := { world.session with
              ready := ready, phase := .ready } }
              (.logged (Log.stateChange world.session.phase.name Phase.ready.name))) :=
          ⟨rfl, by simp [Reticent], changes, rfl, rfl, rfl⟩
        exact emit_turning attentive noted
    · exact emit_turning attentive turning

/-! ## Runs -/

omit attentive in
theorem still_answer (number : Nat) (kind name : Text) (completion : Completion) :
    Still who (.called number kind name completion.arguments) := by
  obtain ⟨result, error⟩ := completion
  cases result <;> exact ⟨rfl, rfl⟩

theorem complete_attends (handler : Handler) (completion : Completion)
    (other : handler ≠ .handshake) :
    Within (Attends who) (complete nested handler completion) := by
  cases handler with
  | handshake => exact (other rfl).elim
  | mailbox slot => exact fun _ => attends_of_journal rfl rfl le_rfl (List.Sublist.refl _)
  | callback number => exact invoke_attends attentive fun _ _ => still_answer _ _ _ _

theorem attends_telling : Telling (Attends who) nested where
  ends world _ := attends_noting ⟨rfl, rfl⟩ world
  tells := emit_attends attentive
  readied := setReady_attends attentive true
  unreadied := setReady_attends attentive false

theorem attends_answering : Answering (Attends who) nested where
  toInforming := (attends_telling attentive).toInforming
  receives := attentive.receive
  opens := attends_awaits who _
  answers _ server message handler _ _ _ _ _ split _ other :=
    (complete_attends attentive handler _ other).later (handling_broad server message split)

theorem attends_keeping : Keeping (Attends who) nested :=
  (attends_telling attentive).keeping (attends_answering attentive).toHearing

theorem attends_acting : Acting (Attends who) nested where
  toHalting := (attends_keeping attentive).halting
  awaits := attends_awaits who
  completes := complete_attends attentive

theorem performWith_attends (step : Step) : Within (Attends who) (performWith nested step) := by
  have receives := (attends_answering attentive).receive (attends_telling attentive)
  refine performWith_within (attends_acting attentive) ?_
  cases step with
  | start command arguments root =>
      exact (attends_keeping attentive).start adoptServer_attends command arguments root
  | request method params handler =>
      cases handler with
      | none => trivial
      | some callback => exact fun world => attends_adding _
  | subscribe channel listener => exact fun world => attends_enlisting channel listener
  | unsubscribe name => exact fun world channel listener => attends_leaving channel listener
  | send server message => exact receives
  | raw server data => exact receives
  | set server running change => exact fun world server => Broad.serving world _
  | setFactory change =>
      exact fun world => attends_of_journal rfl rfl le_rfl (List.Sublist.refl _)
  | _ => trivial

omit attentive in
theorem nestedCalls_attentive (depth : Nat) : Attentive who (nestedCalls depth) := by
  induction depth with
  | zero =>
      refine ⟨fun step => within_throw _, fun server data world => ?_⟩
      refine (receiveTooDeep_arrives server data world).mono ?_
      rintro _ _ rfl
      exact attends_noting ⟨rfl, rfl⟩ world
  | succ depth ih =>
      exact ⟨performWith_attends ih, (attends_answering ih).receive (attends_telling ih)⟩

end

theorem turns_attend (who depth : Nat) (script : List Step) (world : World) :
    Attends who world (leftBy world (turns (performWith (nestedCalls depth)) world script)) := by
  have each : ∀ step ∈ script, ∀ middle, Attends who world middle →
      Ensures (performWith (nestedCalls depth) step) middle fun _ => Attends who world :=
    fun step _ middle attends =>
      (performWith_attends (nestedCalls_attentive depth) step).later attends
  exact leftBy_turns each (refl_of (Attends who) world)

theorem Reached.lined {world : World} (reached : Reached world) : Lined world := by
  obtain ⟨settings, factory, depth, script, rfl⟩ := reached
  have fresh : Lined { settings := settings, factory := factory } :=
    ⟨[], rfl, List.Pairwise.nil, by simp⟩
  obtain ⟨added, attending⟩ := turns_attend 0 depth script _ fresh
  exact attending.lined

/--
However listeners call the client while they are told, announcements alternate and the last one
agrees with the session.  Whoever listens from the beginning to the end is told of each of them
once, and in their order unless a listener in front acts while it is told and makes another one.
-/
theorem readiness_history (depth : Nat) {world : World} (reached : Reached world)
    (script : List Step) {who : Nat} (listens : world.Hears who)
    (stays : (leftBy world (turns (performWith (nestedCalls depth)) world script)).Hears who) :
    let run := turns (performWith (nestedCalls depth)) world script
    let entries := run.flatMap Turn.entries
    Alternates world.session.ready (announcements entries) (leftBy world run).session.ready ∧
      (toldTo who entries).Perm (announcements entries) ∧
      (toldTo who entries = announcements entries ∨ Overtaken who entries) := by
  intro run entries
  obtain ⟨added, attending⟩ := turns_attend who depth script world reached.lined
  have grown := (turns_sound (performWith_keeps depth) reached.sound script).2
  obtain rfl : added = entries := by
    rw [attending.grown] at grown
    exact List.append_cancel_left grown
  have informs := attending.informs listens stays
  exact ⟨attending.alternates, informs.perm, informs.eq_or_overtaken⟩

/-- Two listen, and the first one stops the session as soon as it is ready. -/
def hastyListeners : List Step :=
  [.subscribe .ready
      { kind := "ready", name := "A", script := [.stop], guard := some (.bool true) },
    .subscribe .ready { kind := "ready", name := "B" }]

def opened : List Step :=
  [.start "srv" [] none, .send none (.object [("id", .nat 1), ("result", .object [])])]

def hastyWorld : World := leftBy {} (turns (performWith (nestedCalls 0)) {} hastyListeners)

/-- The second listener is told at last that a session is ready that has been stopped. -/
theorem hastyStop_overtakes :
    let run := turns (performWith (nestedCalls 4)) hastyWorld opened
    announcements (run.flatMap Turn.entries) = [true, false] ∧
      toldTo 1 (run.flatMap Turn.entries) = [false, true] ∧
      (leftBy hastyWorld run).session.ready = false := by
  decide +kernel

theorem readiness_history_of_hasty :
    let run := turns (performWith (nestedCalls 4)) hastyWorld opened
    hastyWorld.Hears 1 ∧ (leftBy hastyWorld run).Hears 1 ∧
      (toldTo 1 (run.flatMap Turn.entries)).Perm (announcements (run.flatMap Turn.entries)) ∧
      Overtaken 1 (run.flatMap Turn.entries) := by
  have reached : Reached hastyWorld := ⟨{}, {}, 0, hastyListeners, rfl⟩
  have listens : hastyWorld.Hears 1 := by unfold World.Hears; decide +kernel
  have stays : (leftBy hastyWorld
      (turns (performWith (nestedCalls 4)) hastyWorld opened)).Hears 1 := by
    unfold World.Hears; decide +kernel
  have late : toldTo 1 ((turns (performWith (nestedCalls 4)) hastyWorld opened).flatMap
      Turn.entries) ≠ announcements ((turns (performWith (nestedCalls 4)) hastyWorld opened).flatMap
        Turn.entries) := by
    decide +kernel
  obtain ⟨-, told, orders⟩ := readiness_history 4 reached opened listens stays
  exact ⟨listens, stays, told, orders.resolve_left late⟩

end Client

end LanguageSession
