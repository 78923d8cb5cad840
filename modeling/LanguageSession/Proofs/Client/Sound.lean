import Mathlib
import LanguageSession.Client.Session
import LanguageSession.Proofs.Client.History
import LanguageSession.Proofs.Run

/-!
# The journal and the session agree

A world is sound when its journal is coherent and tells the truth about the session: the
same server, and the same callbacks waiting under the same ids.  Operations keep the world
sound and only add to the journal (`Keeps`).  As long as nothing is added that disturbs the
session, they also leave alone what the session has read and whom it has promised an answer
(`Settles`).
-/

namespace LanguageSession

namespace Client

open Act

/-! ## Parts of the world -/

section

variable {world : World}

@[simp] theorem ensures_getSession (post : Except Fault Session → World → Prop) :
    Ensures (getThe Session) world post ↔ post (.ok world.session) world := Iff.rfl

@[simp] theorem ensures_modifySession (change : Session → Session)
    (post : Except Fault Unit → World → Prop) :
    Ensures (modifyThe Session change) world post ↔
      post (.ok ()) { world with session := change world.session } := Iff.rfl

@[simp] theorem ensures_getPending (post : Except Fault (Registry Handler) → World → Prop) :
    Ensures (getThe (Registry Handler)) world post ↔ post (.ok world.session.pending) world :=
  Iff.rfl

@[simp] theorem ensures_setPending (pending : Registry Handler)
    (post : Except Fault PUnit → World → Prop) :
    Ensures (set pending : Act World PUnit) world post ↔
      post (.ok ()) { world with session := { world.session with pending := pending } } := Iff.rfl

@[simp] theorem ensures_getSubscriptions
    (post : Except Fault (Subscriptions Listener) → World → Prop) :
    Ensures (getThe (Subscriptions Listener)) world post ↔ post (.ok world.subscriptions) world :=
  Iff.rfl

@[simp] theorem ensures_modifySubscriptions
    (change : Subscriptions Listener → Subscriptions Listener)
    (post : Except Fault Unit → World → Prop) :
    Ensures (modifyThe (Subscriptions Listener) change) world post ↔
      post (.ok ()) { world with subscriptions := change world.subscriptions } := Iff.rfl

@[simp] theorem ensures_getCast (post : Except Fault (Cast Step) → World → Prop) :
    Ensures (getThe (Cast Step)) world post ↔ post (.ok world.cast) world := Iff.rfl

@[simp] theorem ensures_setCast (cast : Cast Step) (post : Except Fault PUnit → World → Prop) :
    Ensures (set cast : Act World PUnit) world post ↔ post (.ok ()) { world with cast := cast } :=
  Iff.rfl

@[simp] theorem ensures_modifyCast (change : Cast Step → Cast Step)
    (post : Except Fault Unit → World → Prop) :
    Ensures (modifyThe (Cast Step) change) world post ↔
      post (.ok ()) { world with cast := change world.cast } := Iff.rfl

def World.noting (world : World) (entry : Entry) : World :=
  { world with journal := ⟨world.journal.entries ++ [entry]⟩ }

@[simp] theorem add_eq_noting (entry : Entry) :
    KeepsJournal.add entry world = world.noting entry := rfl

@[simp] theorem noting_session (entry : Entry) : (world.noting entry).session = world.session := rfl

@[simp] theorem noting_entries (entry : Entry) :
    (world.noting entry).journal.entries = world.journal.entries ++ [entry] := rfl

@[simp] theorem noting_cast (entry : Entry) : (world.noting entry).cast = world.cast := rfl

@[simp] theorem noting_servers (entry : Entry) : (world.noting entry).servers = world.servers := rfl

@[simp] theorem noting_subscriptions (entry : Entry) :
    (world.noting entry).subscriptions = world.subscriptions := rfl

end

/-! ## Sound worlds -/

/-- The callbacks that wait, each after the id it waits for. -/
def callbacksIn (entries : List (Json × Handler)) : List (Json × Nat) :=
  entries.filterMap fun entry =>
    match entry.2 with
    | .callback who => some (entry.1, who)
    | _ => none

/-- The ids are numbers that were given out in this order. -/
def Numbered (nextId : Nat) (entries : List (Json × Handler)) : Prop :=
  ∃ ids : List Nat, entries.map Prod.fst = ids.map Json.nat ∧ ids.Pairwise (· < ·) ∧
    ∀ id ∈ ids, id < nextId

structure Sound (world : World) : Prop where
  coherent : Coherent world.journal.entries
  server : (standing world.journal.entries).server = world.session.server
  waiting : callbacksIn world.session.pending.entries =
    (standing world.journal.entries).waiting.map fun request =>
      (Json.nat request.id, request.callback)
  numbered : Numbered world.session.nextId world.session.pending.entries
  handlers : ∀ request ∈ (standing world.journal.entries).waiting,
    ∃ callback, world.cast.callbacks[request.callback]? = some callback ∧ callback.kind = ("handler" : Text)
  listeners : ∀ channel who, .callback who ∈ world.subscriptions.on channel →
    ∃ callback, world.cast.callbacks[who]? = some callback ∧ callback.kind ≠ ("handler" : Text)
  untouched : ∀ who, world.cast.callbacks.length ≤ who → Untouched world.journal.entries who
  servers : ∀ server, .serving (some server) ∈ world.journal.entries → server < world.servers.length

def core (world : World) :=
  (world.journal, world.session.server, world.session.pending, world.session.nextId,
    world.subscriptions, world.cast.callbacks, world.servers.length, world.settings)

theorem Sound.of_core {world world' : World} (sound : Sound world) (same : core world' = core world) :
    Sound world' := by
  simp only [core, Prod.mk.injEq] at same
  obtain ⟨journal, server, pending, nextId, subscriptions, callbacks, servers, -⟩ := same
  constructor
  · rw [journal]; exact sound.coherent
  · rw [journal, server]; exact sound.server
  · rw [journal, pending]; exact sound.waiting
  · rw [nextId, pending]; exact sound.numbered
  · rw [journal, callbacks]; exact sound.handlers
  · rw [subscriptions, callbacks]; exact sound.listeners
  · rw [journal, callbacks]; exact sound.untouched
  · rw [journal, servers]; exact sound.servers

/-! ## Moves -/

/-- Nothing is taken back that was noted, and callbacks keep their numbers. -/
structure Grows (world world' : World) : Prop where
  journal : world.journal.entries <+: world'.journal.entries
  callbacks : world.cast.callbacks <+: world'.cast.callbacks
  settings : world'.settings = world.settings

def Keeps (world world' : World) : Prop :=
  Sound world → Sound world' ∧ Grows world world'

/-- Does the entry tell of something that may end waiting, reading or writing? -/
def Disturbs : Entry → Prop
  | .serving _ => True
  | .ending _ => True
  | .dropped => True
  | .writeRefused _ _ => True
  | .arrived _ _ => True
  | _ => False

def Calm (added : List Entry) : Prop := ∀ entry ∈ added, ¬ Disturbs entry

/-- The session does not wait for the response to its own first request. -/
def Established (world : World) : Prop :=
  Handler.handshake ∉ world.session.pending.entries.map Prod.snd

structure Steady (world world' : World) : Prop where
  established : Established world → Established world'
  buffer : world'.session.buffer = world.session.buffer
  stopping : world'.session.stopping = world.session.stopping
  abortRequested : world'.session.abortRequested = world.session.abortRequested
  waiting : (standing world.journal.entries).waiting <+: (standing world'.journal.entries).waiting

def Settles (world world' : World) : Prop :=
  Sound world → Sound world' ∧ Grows world world' ∧
    ∀ added, world'.journal.entries = world.journal.entries ++ added → Calm added →
      Steady world world'

theorem Grows.trans {first second third : World} (before : Grows first second)
    (after : Grows second third) : Grows first third where
  journal := before.journal.trans after.journal
  callbacks := before.callbacks.trans after.callbacks
  settings := after.settings.trans before.settings

theorem Grows.refl (world : World) : Grows world world :=
  ⟨List.prefix_rfl, List.prefix_rfl, rfl⟩

theorem Steady.refl (world : World) : Steady world world :=
  ⟨id, rfl, rfl, rfl, List.prefix_rfl⟩

theorem Steady.trans {first second third : World} (before : Steady first second)
    (after : Steady second third) : Steady first third where
  established := after.established ∘ before.established
  buffer := after.buffer.trans before.buffer
  stopping := after.stopping.trans before.stopping
  abortRequested := after.abortRequested.trans before.abortRequested
  waiting := before.waiting.trans after.waiting

theorem calm_append {added later : List Entry} :
    Calm (added ++ later) ↔ Calm added ∧ Calm later := by
  simp [Calm, or_imp, forall_and]

instance : IsPreorder World Keeps where
  refl world sound := ⟨sound, .refl world⟩
  trans first second third before after sound := by
    obtain ⟨sound, earlier⟩ := before sound
    obtain ⟨sound, later⟩ := after sound
    exact ⟨sound, earlier.trans later⟩

instance : IsPreorder World Settles where
  refl world sound := ⟨sound, .refl world, fun _ _ _ => .refl world⟩
  trans first second third before after sound := by
    obtain ⟨sound, earlier, steady⟩ := before sound
    obtain ⟨sound, later, steady'⟩ := after sound
    refine ⟨sound, earlier.trans later, ?_⟩
    intro added grown calm
    obtain ⟨between, first_grown⟩ := earlier.journal
    obtain ⟨rest, second_grown⟩ := later.journal
    obtain rfl : added = between ++ rest := by
      rw [← second_grown, ← first_grown, List.append_assoc] at grown
      exact (List.append_cancel_left grown).symm
    rw [calm_append] at calm
    exact (steady between first_grown.symm calm.1).trans (steady' rest second_grown.symm calm.2)

section

variable {world world' : World}

theorem Settles.keeps (settles : Settles world world') : Keeps world world' := by
  intro sound
  obtain ⟨sound, grows, -⟩ := settles sound
  exact ⟨sound, grows⟩

/-- Something of this kind was noted. -/
def Meets (kind : Entry → Prop) (world world' : World) : Prop :=
  ∃ between, world.journal.entries ++ between <+: world'.journal.entries ∧
    ∃ entry ∈ between, kind entry

abbrev Disturbed : World → World → Prop := Meets Disturbs

theorem Meets.after {kind : Entry → Prop} {world'' : World} (meets : Meets kind world world')
    (grows : Grows world' world'') : Meets kind world world'' := by
  obtain ⟨between, grown, entry⟩ := meets
  exact ⟨between, grown.trans grows.journal, entry⟩

theorem Meets.before {kind : Entry → Prop} {world'' : World} (meets : Meets kind world' world'')
    (grows : Grows world world') : Meets kind world world'' := by
  obtain ⟨between, grown, entry, member, noted⟩ := meets
  obtain ⟨earlier, same⟩ := grows.journal
  refine ⟨earlier ++ between, ?_, entry, List.mem_append_right _ member, noted⟩
  rwa [← List.append_assoc, same]

theorem disturbed_of_entry {entry : Entry}
    (noted : world'.journal.entries = world.journal.entries ++ [entry]) (disturbs : Disturbs entry) :
    Disturbed world world' :=
  ⟨[entry], noted ▸ List.prefix_rfl, entry, List.mem_singleton_self entry, disturbs⟩

/-- An operation that disturbs the session need not leave anything else alone. -/
theorem Keeps.settles (keeps : Keeps world world') (disturbed : Disturbed world world') :
    Settles world world' := by
  intro sound
  obtain ⟨sound, grows⟩ := keeps sound
  refine ⟨sound, grows, ?_⟩
  intro added same calm
  obtain ⟨between, ⟨rest, later⟩, entry, member, disturbs⟩ := disturbed
  obtain rfl : between ++ rest = added := by
    rw [← later, List.append_assoc] at same
    exact List.append_cancel_left same
  exact (calm entry (List.mem_append_left _ member) disturbs).elim

theorem settles_of_core (same : core world' = core world)
    (buffer : world'.session.buffer = world.session.buffer)
    (stopping : world'.session.stopping = world.session.stopping)
    (abortRequested : world'.session.abortRequested = world.session.abortRequested) :
    Settles world world' := by
  intro sound
  have journal : world'.journal = world.journal := congrArg Prod.fst same
  have pending : world'.session.pending = world.session.pending :=
    congrArg (fun parts => parts.2.2.1) same
  have callbacks : world'.cast.callbacks = world.cast.callbacks :=
    congrArg (fun parts => parts.2.2.2.2.2.1) same
  have settings : world'.settings = world.settings :=
    congrArg (fun parts => parts.2.2.2.2.2.2.2) same
  refine ⟨sound.of_core same, ⟨by rw [journal], by rw [callbacks], settings⟩, ?_⟩
  intro _ _ _
  refine ⟨?_, buffer, stopping, abortRequested, ?_⟩
  · rw [Established, Established, pending]
    exact id
  · rw [journal]

theorem keeps_of_core (same : core world' = core world) : Keeps world world' := by
  intro sound
  have journal : world'.journal = world.journal := congrArg Prod.fst same
  have callbacks : world'.cast.callbacks = world.cast.callbacks :=
    congrArg (fun parts => parts.2.2.2.2.2.1) same
  have settings : world'.settings = world.settings :=
    congrArg (fun parts => parts.2.2.2.2.2.2.2) same
  exact ⟨sound.of_core same, ⟨by rw [journal], by rw [callbacks], settings⟩⟩

end

theorem within_of_sound {α : Type} {action : Act World α}
    (settles : ∀ world, Sound world → Ensures action world fun _ => Settles world) :
    Within Settles action := by
  intro world sound
  exact settles world sound sound

theorem within_keeps_of_sound {α : Type} {action : Act World α}
    (keeps : ∀ world, Sound world → Ensures action world fun _ => Keeps world) :
    Within Keeps action := by
  intro world sound
  exact keeps world sound sound

theorem within_keeps {α : Type} {action : Act World α} (settles : Within Settles action) :
    Within Keeps action := by
  intro world
  exact (settles world).mono fun _ _ moved => moved.keeps

/-- What follows a disturbance need only keep the world sound. -/
theorem settles_after_disturbance {α : Type} {rest : Act World α} {world disturbing : World}
    (within : Within Keeps rest) (kept : Keeps world disturbing)
    (disturbed : Disturbed world disturbing) : Ensures rest disturbing fun _ => Settles world := by
  refine (within disturbing).mono fun _ world' later sound => ?_
  have grows := (later (kept sound).1).2
  exact (trans_of Keeps kept later).settles (disturbed.after grows) sound

/-! ## Entries -/

/-- Is the entry of no account for what the journal says of the session? -/
def Idle : Entry → Prop
  | .called _ _ _ _ => False
  | .serving _ => False
  | .awaiting _ _ _ => False
  | .requested _ _ => False
  | .dropped => False
  | _ => True

theorem Sound.noting {world : World} {entry : Entry} (sound : Sound world)
    (lawful : Lawful world.journal.entries entry)
    (same : (standing world.journal.entries).advance entry = standing world.journal.entries)
    (known : ∀ who, Concerns who entry → who < world.cast.callbacks.length)
    (served : ∀ server, entry = .serving (some server) → server < world.servers.length) :
    Sound (world.noting entry) where
  coherent := sound.coherent.snoc lawful
  server := by simpa [same] using sound.server
  waiting := by simpa [same] using sound.waiting
  numbered := sound.numbered
  handlers := by simpa [same] using sound.handlers
  listeners := sound.listeners
  untouched := by
    intro who unknown
    refine untouched_snoc.mpr ⟨sound.untouched who unknown, fun concerns => ?_⟩
    exact absurd (known who concerns) (Nat.not_lt.mpr unknown)
  servers := by
    intro server member
    rcases List.mem_append.mp member with earlier | last
    · exact sound.servers server earlier
    · exact served server (List.mem_singleton.mp last).symm

theorem settles_noting {world : World} {entry : Entry}
    (noted : Sound world → Sound (world.noting entry) ∧
      (standing world.journal.entries).advance entry = standing world.journal.entries) :
    Settles world (world.noting entry) := by
  intro sound
  obtain ⟨sound, same⟩ := noted sound
  refine ⟨sound, ⟨List.prefix_append _ _, List.prefix_rfl, rfl⟩, ?_⟩
  intro _ _ _
  refine ⟨id, rfl, rfl, rfl, ?_⟩
  rw [noting_entries, standing_snoc, same]

section

variable {world : World} {entry : Entry}

theorem Idle.advance (idle : Idle entry) (before : Standing) : before.advance entry = before := by
  cases entry <;> first | rfl | cases idle

theorem Idle.lawful (idle : Idle entry) (before : List Entry) : Lawful before entry := by
  cases entry <;> trivial

theorem Idle.not_concerns (idle : Idle entry) (callback : Nat) : ¬ Concerns callback entry := by
  cases entry <;> simp_all [Idle, Concerns]

theorem settles_idle (idle : Idle entry) : Settles world (world.noting entry) := by
  refine settles_noting fun sound => ⟨?_, idle.advance _⟩
  refine sound.noting (idle.lawful _) (idle.advance _) ?_ ?_
  · intro who concerns
    exact (idle.not_concerns who concerns).elim
  · rintro server rfl
    exact idle.elim

theorem advance_called {before : Standing} {who : Nat} {kind name : Text} {arguments : List Json}
    (silent : ∀ request ∈ before.waiting, request.callback ≠ who) :
    before.advance (.called who kind name arguments) = before := by
  have kept : before.waiting.filter (fun request => request.callback ≠ who) = before.waiting := by
    rw [List.filter_eq_self]
    intro request waits
    simpa using silent request waits
  rw [Standing.advance, kept]

theorem lt_of_known {who : Nat} {callback : Callback Step}
    (known : world.cast.callbacks[who]? = some callback) : who < world.cast.callbacks.length :=
  (List.getElem?_eq_some_iff.mp known).1

/-- Callbacks that are not response handlers may be called at any time. -/
theorem settles_called {who : Nat} {callback : Callback Step} {name : Text} {arguments : List Json}
    (known : world.cast.callbacks[who]? = some callback)
    (kind : callback.kind ≠ ("handler" : Text)) :
    Settles world (world.noting (.called who callback.kind name arguments)) := by
  refine settles_noting fun sound => ?_
  have silent : ∀ request ∈ (standing world.journal.entries).waiting, request.callback ≠ who := by
    rintro request waits rfl
    obtain ⟨handler, found, handles⟩ := sound.handlers request waits
    obtain rfl : callback = handler := by simpa [known] using found
    exact kind handles
  refine ⟨sound.noting ?_ (advance_called silent) ?_ ?_, advance_called silent⟩
  · intro handles
    exact (kind handles).elim
  · rintro _ rfl
    exact lt_of_known known
  · simp

/-- A response handler may be called when nothing has happened to it yet. -/
theorem settles_refused {who : Nat} {kind name : Text} {error : Json}
    (known : who < world.cast.callbacks.length)
    (untouched : Untouched world.journal.entries who) :
    Settles world (world.noting (.called who kind name (Completion.failure error).arguments)) := by
  refine settles_noting fun sound => ?_
  have silent : ∀ request ∈ (standing world.journal.entries).waiting, request.callback ≠ who := by
    rintro request waits rfl
    obtain ⟨before, after, split, -⟩ := awaiting_of_waiting waits
    rw [split] at untouched
    exact untouched (.awaiting request.callback request.id request.server) (by simp) rfl
  refine ⟨sound.noting ?_ (advance_called silent) ?_ ?_, advance_called silent⟩
  · intro _
    exact .inl ⟨untouched, error, rfl⟩
  · rintro _ rfl
    exact known
  · simp

end

end Client

end LanguageSession
