import Mathlib
import LanguageSession.Proofs.Events.Deeds
import LanguageSession.Proofs.Events.Depth

/-!
# Whom an event is told

An event is told to those who stand in the list of its channel when it is announced, in their order
and once for each entry, whatever they do and whether or not they fail.  A listener that subscribed
twice stands in the list twice, and what ends either subscription removes the first entry.  The
listeners are therefore those of the live subscriptions as long as every end that is called meets
its own subscription, and not beyond that.
-/

namespace LanguageSession

namespace Subscriptions

open Act

/-! ## Deeds in the journal -/

/-- What the journal shows of deeds. -/
inductive Sign where
  | emitted (event : Event)
  | called (who : Nat) (arguments : List Json)

def Sign.ofEntry? : Entry → Option Sign
  | .emitted event => some (.emitted event)
  | .called who _ _ arguments => some (.called who arguments)
  | _ => none

def Sign.ofDeed? : Deed → Option Sign
  | .announced _ event => some (.emitted event)
  | .told _ event who => some (.called who event.arguments)
  | _ => none

/-! ## Sound annals -/

/-- The annals tell what has become of the scene. -/
structure Sound (annals : Annals) : Prop where
  replayed : annals.scene.subscriptions = replay annals.deeds
  handles : (made annals.deeds).reverse = (numbered annals.scene.handles).map Prod.snd
  known : ∀ channel, ∀ who ∈ annals.scene.subscriptions.on channel,
    who < annals.scene.cast.callbacks.length
  signs : annals.scene.journal.entries.filterMap Sign.ofEntry? =
    annals.deeds.filterMap Sign.ofDeed?
  placed : Placed annals.deeds

theorem sound_empty : Sound {} where
  replayed := rfl
  handles := rfl
  known channel who member := by cases channel <;> cases member
  signs := rfl
  placed := placed_nil

/-- The annals go on, and tell further listeners of earlier announcements. -/
structure Goes (further : Nat → List Nat) (annals after : Annals) : Prop where
  sound : Sound after
  grows : annals.scene.cast.callbacks.length ≤ after.scene.cast.callbacks.length
  added : ∃ added, after.deeds = annals.deeds ++ added ∧ Tells further annals.deeds added

theorem Goes.trans {further others : Nat → List Nat} {annals middle after : Annals}
    (first : Goes further annals middle) (second : Goes others middle after)
    (settled : ∀ number, announcementsIn annals.deeds ≤ number → others number = []) :
    Goes (fun number => further number ++ others number) annals after := by
  obtain ⟨added, begins, tells⟩ := first.added
  obtain ⟨later, ends, tells'⟩ := second.added
  have placed := first.sound.placed
  rw [begins] at placed tells'
  refine ⟨second.sound, first.grows.trans second.grows, added ++ later, ?_, ?_⟩
  · rw [ends, begins, List.append_assoc]
  · exact tells.append tells' placed settled

theorem Goes.silently {further : Nat → List Nat} {annals middle after : Annals}
    (first : Goes further annals middle) (second : Goes nobody middle after) :
    Goes further annals after := by
  have whole := first.trans second fun _ _ => rfl
  simpa only [nobody, List.append_nil] using whole

def Advances (annals after : Annals) : Prop := Sound annals → Goes nobody annals after

theorem advances_of_deeds {annals after : Annals} (sound : Sound annals → Sound after)
    (grows : annals.scene.cast.callbacks.length ≤ after.scene.cast.callbacks.length)
    (deeds : after.deeds = annals.deeds) : Advances annals after := fun before =>
  ⟨sound before, grows, [], by rw [deeds, List.append_nil], tells_nil _⟩

instance : IsPreorder Annals Advances where
  refl _ := advances_of_deeds id le_rfl rfl
  trans _ _ _ first second sound := (first sound).silently (second (first sound).sound)

theorem Goes.onward {α : Type} {action : Act Annals α} {further : Nat → List Nat}
    {annals middle : Annals} (goes : Goes further annals middle) (within : Within Advances action) :
    Ensures action middle fun _ => Goes further annals :=
  (within middle).mono fun _ _ advances => goes.silently (advances goes.sound)

theorem Goes.deeds_subset {further : Nat → List Nat} {annals after : Annals}
    (goes : Goes further annals after) : annals.deeds ⊆ after.deeds := by
  obtain ⟨added, same, -⟩ := goes.added
  rw [same]
  exact List.subset_append_left _ _

/-! ## Entries and callbacks -/

section

variable {annals : Annals}

theorem Sound.write (sound : Sound annals) {entry : Entry} (unsigned : Sign.ofEntry? entry = none) :
    Sound (KeepsJournal.add entry annals) where
  replayed := sound.replayed
  handles := sound.handles
  known := sound.known
  signs := by
    have same := sound.signs
    simpa [KeepsJournal.add, KeepsJournal.setJournal, KeepsJournal.journal, List.filterMap_append,
      unsigned] using same
  placed := sound.placed

theorem advances_write {entry : Entry} (unsigned : Sign.ofEntry? entry = none) :
    Within Advances (write entry : Act Annals Unit) := fun _ =>
  advances_of_deeds (fun sound => sound.write unsigned) le_rfl rfl

instance : HoldsCast Step Annals where
  cast annals := annals.scene.cast
  setCast cast annals := { annals with scene := { annals.scene with cast := cast } }
  result_get _ := rfl
  result_modify _ _ := rfl
  cast_setCast _ _ := rfl
  cast_add _ _ := rfl

theorem advances_getCast : Within Advances (getThe (Cast Step) : Act Annals (Cast Step)) :=
  fun annals => refl_of Advances annals

theorem allowsScripts_advances : AllowsScripts Advances where
  marking annals entry marks := by
    cases entry with
    | doing operation => exact advances_write rfl annals
    | did operation result => exact advances_write rfl annals
    | _ => exact marks.elim
  spending annals who := by
    have steady (sound : Sound annals) : Sound (setCast ((cast annals).spend who) annals) :=
      ⟨sound.replayed, sound.handles, sound.known, sound.signs, sound.placed⟩
    exact advances_of_deeds steady le_rfl rfl

variable {nested : Step → Act Annals Json}

/-! ## Announcements -/

/-- A deed is noted, and then the entry that shows it. -/
theorem Sound.shown (sound : Sound annals) {deed : Deed} {entry : Entry}
    (same : Sign.ofEntry? entry = Sign.ofDeed? deed) (unmade : deed.made? = none)
    (fits : deed.Fits annals.deeds)
    (idle : ∀ subscriptions, deed.apply subscriptions = subscriptions) :
    Sound (KeepsJournal.add entry (annals.noting deed)) where
  replayed := by
    change annals.scene.subscriptions = replay (annals.deeds ++ [deed])
    rw [replay_snoc, idle, sound.replayed]
  handles := by
    change (made (annals.deeds ++ [deed])).reverse = _
    rw [made_snoc, unmade, Option.toList_none, List.append_nil]
    exact sound.handles
  known := sound.known
  signs := by
    change (annals.scene.journal.entries ++ [entry]).filterMap _ =
      (annals.deeds ++ [deed]).filterMap _
    rw [List.filterMap_append, List.filterMap_append, sound.signs, List.filterMap_cons,
      List.filterMap_cons, same]
    rfl
  placed := sound.placed.snoc fits

theorem ensures_getCast (post : Except Fault (Cast Step) → Annals → Prop) :
    Ensures (getThe (Cast Step)) annals post ↔ post (.ok annals.scene.cast) annals := Iff.rfl

theorem ensures_getSubscriptions (post : Except Fault (Subscriptions Nat) → Annals → Prop) :
    Ensures (getThe (Subscriptions Nat)) annals post ↔
      post (.ok annals.scene.subscriptions) annals := Iff.rfl

theorem ensures_invoke {who : Nat} {callback : Callback Step} {arguments : List Json}
    (present : annals.scene.cast.callbacks[who]? = some callback)
    (post : Except Fault Unit → Annals → Prop) :
    Ensures (invoke Step.operation nested who arguments) annals post ↔
      Ensures (proceed Step.operation nested who callback arguments)
        (KeepsJournal.add (.called who callback.kind callback.name arguments) annals) post := by
  simp only [invoke, ensures_bind, ensures_getCast, present, ensures_write]

theorem ensures_tell (performs : ∀ step, Within Advances (nested step)) (sound : Sound annals)
    {number who : Nat} {event : Event} (known : who < annals.scene.cast.callbacks.length)
    (announced : .announced number event ∈ annals.deeds) :
    Ensures (tell nested number who event) annals fun _ => Goes (only number [who]) annals := by
  let noted := annals.noting (.told number event who)
  obtain ⟨callback, present⟩ : ∃ callback, noted.scene.cast.callbacks[who]? = some callback :=
    ⟨_, List.getElem?_eq_getElem known⟩
  have called : Goes (only number [who]) annals
      (KeepsJournal.add (.called who callback.kind callback.name event.arguments) noted) :=
    ⟨sound.shown rfl rfl announced fun _ => rfl, le_rfl, _, rfl, tells_told _ number event who⟩
  rw [tell, ensures_bind, ensures_modify]
  change Ensures (invoke Step.operation nested who event.arguments) noted _
  rw [ensures_invoke present]
  exact called.onward
    (allowsScripts_advances.proceed who event.arguments fun step _ => performs step)

/-- A listener is told, and a failure of it is noted. -/
def inform (nested : Step → Act Annals Json) (number : Nat) (event : Event) (who : Nat) :
    Act Annals Unit :=
  contain (tell nested number who event) do record (Log.listenerFailed (← labelOf who))

theorem advances_report (who : Nat) :
    Within Advances (do record (Log.listenerFailed (← labelOf who)) : Act Annals Unit) :=
  Within.bind (Within.bind advances_getCast fun _ => within_pure _) fun _ => advances_write rfl

theorem succeeds_inform (number : Nat) (event : Event) (who : Nat) :
    Succeeds (inform nested number event who) :=
  Succeeds.tryCatch fun _ => Succeeds.bind (fun _ => ⟨_, rfl⟩) fun _ => succeeds_write _

theorem ensures_inform (performs : ∀ step, Within Advances (nested step)) (sound : Sound annals)
    {number who : Nat} {event : Event} (known : who < annals.scene.cast.callbacks.length)
    (announced : .announced number event ∈ annals.deeds) :
    Ensures (inform nested number event who) annals fun _ => Goes (only number [who]) annals := by
  rw [inform, contain, ensures_tryCatch]
  refine (ensures_tell performs sound known announced).mono fun ending middle told => ?_
  cases ending with
  | ok _ => exact told
  | error _ => exact told.onward (advances_report who)

/-- Whoever fails, all listeners of an announcement are told. -/
theorem ensures_informAll (performs : ∀ step, Within Advances (nested step)) {number : Nat}
    {event : Event} {listeners : List Nat} (sound : Sound annals)
    (known : ∀ who ∈ listeners, who < annals.scene.cast.callbacks.length)
    (announced : .announced number event ∈ annals.deeds) :
    Ensures (listeners.forM (inform nested number event)) annals fun _ =>
      Goes (only number listeners) annals := by
  induction listeners generalizing annals with
  | nil =>
      rw [only_nil]
      exact refl_of Advances annals sound
  | cons who rest ih =>
      refine (succeeds_inform number event who).ensures_bind
        (ensures_inform performs sound (known who List.mem_cons_self) announced)
        fun _ middle first => ?_
      have still (other : Nat) (member : other ∈ rest) :
          other < middle.scene.cast.callbacks.length :=
        (known other (List.mem_cons_of_mem _ member)).trans_le first.grows
      refine (ih first.sound still (first.deeds_subset announced)).mono fun _ after others => ?_
      rw [only_cons]
      -- What the listener announces itself has later numbers, and is told before it returns.
      refine first.trans others fun later fresh => ?_
      have earlier := sound.placed.announced_lt announced
      exact if_neg (by omega)

/-- An announcement is told to those in the list. -/
theorem ensures_announce (performs : ∀ step, Within Advances (nested step)) (sound : Sound annals)
    (event : Event) : Ensures (announce nested event) annals fun _ => Goes nobody annals := by
  let number := announcementsIn annals.deeds
  let listeners := annals.scene.subscriptions.on event.channel
  let base := KeepsJournal.add (.emitted event) (annals.noting (.announced number event))
  have ready : Sound base := sound.shown rfl rfl rfl fun _ => rfl
  have announced : .announced number event ∈ base.deeds :=
    List.mem_append_right _ (List.mem_singleton_self _)
  have informed : Ensures (listeners.forM (inform nested number event)) base fun _ =>
      Goes (only number listeners) base :=
    ensures_informAll performs ready (sound.known event.channel) announced
  simp only [announce, emit, ensures_bind, ensures_get, ensures_modify, ensures_getSubscriptions,
    ensures_write]
  change Ensures (listeners.forM (inform nested number event)) base _
  refine informed.mono fun _ after goes => ?_
  obtain ⟨later, ends, tells⟩ := goes.added
  refine ⟨goes.sound, goes.grows, .announced number event :: later, ?_, ?_⟩
  · rw [ends, List.append_cons]
    rfl
  · simp only [listeners, sound.replayed] at tells
    exact Tells.announced rfl tells

/-! ## Subscribing and ending -/

def Scene.unsubscribed (scene : Scene) (own : Subscription) : Scene :=
  { scene with subscriptions := scene.subscriptions.unsubscribe own.channel own.who }

theorem result_unsubscribe (depth : Nat) (handle : Text) (scene : Scene) :
    result (perform (depth + 1) (.unsubscribe handle)) scene =
      (.ok .null,
        match (numbered scene.handles).lookup handle with
        | none => scene
        | some own => scene.unsubscribed own) := by
  have begins : result (getThe Scene) scene = (.ok scene, scene) := rfl
  have found := lookup_numbered handle scene.handles
  simp only [perform]
  rw [result_bind, begins]
  simp only [found]
  cases (numbered scene.handles).lookup handle with
  | none => rfl
  | some own => rfl

theorem length_numbered (handles : List (Text × Channel × Nat)) :
    (numbered handles).length = handles.length := by
  induction handles with
  | nil => rfl
  | cons entry older ih => rw [numbered, List.length_cons, List.length_cons, ih]

theorem Sound.made_length (sound : Sound annals) :
    (made annals.deeds).length = annals.scene.handles.length := by
  have same := congrArg List.length sound.handles
  rwa [List.length_reverse, List.length_map, length_numbered] at same

theorem Sound.lookup (sound : Sound annals) {handle : Text} {own : Subscription}
    (found : (numbered annals.scene.handles).lookup handle = some own) :
    own ∈ made annals.deeds := by
  obtain ⟨before, after, split, -⟩ := List.lookup_eq_some_iff.mp found
  rw [← List.mem_reverse, sound.handles, split]
  simp

theorem Sound.subscribed (sound : Sound annals) {who : Nat} {cast : Cast Step}
    (present : who < cast.callbacks.length)
    (grown : annals.scene.cast.callbacks.length ≤ cast.callbacks.length) (channel : Channel)
    (handle : Text) :
    Sound ⟨annals.scene.subscribed channel handle who cast,
      annals.deeds ++ [.subscribed ⟨annals.scene.handles.length, channel, who⟩]⟩ where
  replayed := by
    rw [replay_snoc, ← sound.replayed]
    rfl
  handles := by
    rw [made_snoc, List.reverse_append, sound.handles]
    rfl
  known other listener member := by
    change listener ∈ (annals.scene.subscriptions.subscribe channel who).on other at member
    change listener < cast.callbacks.length
    rw [subscribe, on_modify] at member
    split at member
    · rcases List.mem_append.mp member with earlier | new
      · exact (sound.known other listener earlier).trans_le grown
      · rwa [List.mem_singleton.mp new]
    · exact (sound.known other listener member).trans_le grown
  signs := by
    rw [List.filterMap_append, ← sound.signs]
    exact (List.append_nil _).symm
  placed := sound.placed.snoc sound.made_length.symm

theorem Sound.unsubscribed (sound : Sound annals) {own : Subscription}
    (member : own ∈ made annals.deeds) :
    Sound ⟨annals.scene.unsubscribed own, annals.deeds ++ [.cancelled own]⟩ where
  replayed := by
    rw [replay_snoc, ← sound.replayed]
    rfl
  handles := by
    rw [made_snoc]
    exact (congrArg List.reverse (List.append_nil _)).trans sound.handles
  known other listener member := by
    change listener ∈
      (annals.scene.subscriptions.unsubscribe own.channel own.who).on other at member
    rw [unsubscribe, on_modify] at member
    split at member
    · exact sound.known other listener (List.mem_of_mem_erase member)
    · exact sound.known other listener member
  signs := by
    rw [List.filterMap_append, ← sound.signs]
    exact (List.append_nil _).symm
  placed := sound.placed.snoc member

theorem result_inScene {α : Type} (action : Act Scene α) (annals : Annals) :
    result (inScene action) annals =
      ((result action annals.scene).1, { annals with scene := (result action annals.scene).2 }) :=
  rfl

theorem goes_of_unsigned {after : Annals} {deed : Deed} (sound : Sound after)
    (unannounced : deed.isAnnouncement = false) (untold : ∀ number, toldBy number [deed] = [])
    (grows : annals.scene.cast.callbacks.length ≤ after.scene.cast.callbacks.length)
    (noted : after.deeds = annals.deeds ++ [deed]) : Goes nobody annals after :=
  ⟨sound, grows, [deed], noted, tells_of_unannounced unannounced untold _⟩

theorem advances_subscribe (depth : Nat) (channel : Channel) (handle : Text)
    (listener : Callback Step) :
    Within Advances (chronicle (depth + 1) (.subscribe channel handle listener)) := by
  intro annals sound
  obtain ⟨who, cast, performed, present, grown, -⟩ :=
    result_subscribe depth channel handle listener annals.scene
  have ends : result (chronicle (depth + 1) (.subscribe channel handle listener)) annals =
      (.ok .null, ⟨annals.scene.subscribed channel handle who cast,
        annals.deeds ++ [.subscribed ⟨annals.scene.handles.length, channel, who⟩]⟩) := by
    simp only [chronicle]
    rw [result_bind, result_inScene, performed]
    rfl
  rw [ends]
  exact goes_of_unsigned (sound.subscribed present grown channel handle) rfl (fun _ => rfl) grown
    rfl

theorem advances_unsubscribe (depth : Nat) (handle : Text) :
    Within Advances (chronicle (depth + 1) (.unsubscribe handle)) := by
  intro annals sound
  have ends : result (chronicle (depth + 1) (.unsubscribe handle)) annals =
      result (inScene (perform (depth + 1) (.unsubscribe handle)))
        (annals.notingCancellation handle) := by
    simp only [chronicle]
    exact (succeeds_modify _).result_bind _ _
  rw [ends, result_inScene, result_unsubscribe, notingCancellation_scene]
  cases found : (numbered annals.scene.handles).lookup handle with
  | none =>
      have unnoted : annals.notingCancellation handle = annals := by
        simp only [Annals.notingCancellation, found]
      rw [unnoted]
      exact refl_of Advances annals sound
  | some own =>
      have noted : annals.notingCancellation handle = annals.noting (.cancelled own) := by
        simp only [Annals.notingCancellation, found]
      rw [noted]
      exact goes_of_unsigned (sound.unsubscribed (sound.lookup found)) rfl (fun _ => rfl) le_rfl rfl

end

/-! ## Scripts -/

theorem advances_chronicle (depth : Nat) (step : Step) :
    Within Advances (chronicle depth step) := by
  induction depth generalizing step with
  | zero => exact within_throw _
  | succ depth ih =>
      have announces (event : Event) : Within Advances (announce (chronicle depth) event) :=
        fun _ sound => ensures_announce ih sound event
      cases step with
      | subscribe channel handle listener => exact advances_subscribe depth channel handle listener
      | unsubscribe handle => exact advances_unsubscribe depth handle
      | emit event => exact Within.bind (announces event) fun _ => within_pure _
      | route message =>
          refine Within.bind (within_ofExcept _) fun _ => ?_
          cases Event.ofNotification? message with
          | none => exact within_pure _
          | some event => exact Within.bind (announces event) fun _ => within_pure _

def deedsOf (script : List Step) : List Deed := (leftBy {} (chronicles script)).deeds

theorem goes_chronicles (script : List Step) : Goes nobody {} (leftBy {} (chronicles script)) :=
  leftBy_turns (fun step _ _ goes => goes.onward (advances_chronicle _ step))
    (refl_of Advances {} sound_empty)

theorem leftBy_sceneOf (script : List Step) :
    (leftBy {} (chronicles script)).scene = leftBy {} (play script) := by
  rw [← chronicles_sceneOf, leftBy, leftBy, List.getLast?_map]
  cases (chronicles script).getLast? <;> rfl

theorem placed_deedsOf (script : List Step) : Placed (deedsOf script) :=
  (goes_chronicles script).sound.placed

theorem told_deedsOf {script : List Step} {before after : List Deed} {number : Nat} {event : Event}
    (split : deedsOf script = before ++ .announced number event :: after) :
    toldBy number after = (replay before).on event.channel := by
  obtain ⟨added, same, tells⟩ := (goes_chronicles script).added
  have whole : deedsOf script = added := same
  exact tells.whole before number event after (whole ▸ split)

/--
In every script, which no depth of calls cuts short, an event is told to those in the list of its
channel, one after the other and once for each entry, whatever the listeners do and whether or not
they fail, and the journal shows so.  They are the listeners of the live subscriptions if every end
that was called before met its own subscription.
-/
theorem emissions_reach_listed (script : List Step) :
    (∀ extra, turns (perform (scriptWeight script + 1 + extra)) {} script = play script) ∧
      (chronicles script).map sceneOf = play script ∧
      (leftBy {} (play script)).journal.entries.filterMap Sign.ofEntry? =
        (deedsOf script).filterMap Sign.ofDeed? ∧
      Placed (deedsOf script) ∧
      ∀ before number event after, deedsOf script = before ++ .announced number event :: after →
        toldBy number after = (replay before).on event.channel ∧
          (Straight before →
            toldBy number after = (live event.channel before).map Subscription.who) := by
  refine ⟨play_eq_turns script, chronicles_sceneOf script, ?_, placed_deedsOf script, ?_⟩
  · rw [← leftBy_sceneOf]
    exact (goes_chronicles script).sound.signs
  · intro before number event after split
    have told := told_deedsOf split
    have placed : Placed before := Placed.before (split ▸ placed_deedsOf script)
    exact ⟨told, fun straight => told.trans (replay_on_eq_live placed straight event.channel)⟩

/-- The first subscription is ended twice, and the second is no longer told although it is live. -/
theorem repeated_end_silences :
    let listener : Callback Step := { kind := "log", name := "A" }
    let before : List Deed := [.subscribed ⟨0, .log, 0⟩, .subscribed ⟨1, .log, 0⟩,
      .cancelled ⟨0, .log, 0⟩, .cancelled ⟨0, .log, 0⟩]
    deedsOf [.subscribe .log "u1" listener, .subscribe .log "u2" listener, .unsubscribe "u1",
        .unsubscribe "u1", .emit (.log "x")] = before ++ .announced 0 (.log "x") :: [] ∧
      toldBy 0 [] = [] ∧ (live .log before).map Subscription.who = [0] := by
  refine ⟨?_, rfl, by decide⟩
  rfl

end Subscriptions

end LanguageSession
