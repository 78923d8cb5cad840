import Mathlib
import LanguageSession.Proofs.Client.Placement

/-!
# No server process leaks

A session has one server at a time, and takes another only when the one before has been closed.
Only a start from inside a call can break that, when it comes while the session is being ended:
the server that it takes is forgotten with the session.
-/

namespace LanguageSession

namespace Client

open Act

/-! ## What becomes of a server -/

def closes (server : Nat) : Entry → Bool
  | .closed other => other = server
  | _ => false

def kills (server : Nat) : Entry → Bool
  | .killed other => other = server
  | _ => false

/-- A session is started from inside a call. -/
def restarts : Entry → Bool
  | .doing operation => operation = ("start" : Text)
  | _ => false

theorem restarts_of_doing {entries : List Entry} (begun : .doing "start" ∈ entries) :
    entries.any restarts = true :=
  List.any_eq_true.mpr ⟨_, begun, rfl⟩

/--
A server may be killed that is seen running while the session with it is ending.  If something
was handed to it since, it was given the time to end by itself.
-/
def MayBeKilled (grace : Duration) (before : List Entry) (server : Nat) : Prop :=
  ∃ earlier later, before = earlier ++ .ending server :: later ++ [.looked server true] ∧
    (∀ entry ∈ later, ¬ Borders entry) ∧
    ((∃ entry ∈ later, HandsOver entry) → later.getLast? = some (.waited server grace))

/-- What may be noted of a server, after these entries. -/
def Tidy (grace : Duration) (before : List Entry) : Entry → Prop
  | .serving (some _) =>
    ∀ server, .serving (some server) ∈ before → before.countP (closes server) = 1
  | .killed server => before.countP (kills server) = 0 ∧ MayBeKilled grace before server
  | .closed server => before.countP (closes server) = 0
  | .wrote server _ _ => before.countP (closes server) = 0
  | .writeRefused server _ => before.countP (closes server) = 0
  | _ => True

/-- All servers but that of the session were closed once, and none was killed twice. -/
structure Kept (grace : Duration) (view : View) : Prop where
  tidy : Obeys (Tidy grace) view.entries
  closed : ∀ server, view.entries.countP (closes server) =
    if server < view.made ∧ view.session.server ≠ some server then 1 else 0
  killed : ∀ server, view.entries.countP (kills server) ≤ view.entries.countP (closes server)

/-- Servers are kept, unless someone started a session from inside a call. -/
def Closes (settings : Settings) (view : View) : Prop :=
  view.settings = settings ∧
    (view.entries.any restarts = true ∨ Kept settings.shutdownGrace view)

/-! ## Entries of no account -/

/-- The entry neither takes nor closes a server, and hands over only to the current one. -/
def Ordinary (current : Option Nat) (entry : Entry) : Prop :=
  (∀ server, entry ≠ .serving (some server) ∧ closes server entry = false ∧
    kills server entry = false) ∧
  ∀ server, HandsTo server entry → current = some server

theorem Minor.ordinary {entry : Entry} (minor : Minor entry) (current : Option Nat) :
    Ordinary current entry := by
  cases entry <;> simp_all [Minor, Ordinary, closes, kills, HandsTo]

section

variable {grace : Duration} {settings : Settings} {view view' : View} {added : List Entry}

theorem Handed.ordinary {current : Option Nat} {message : Json}
    (handed : Handed current message added) : ∀ entry ∈ added, Ordinary current entry := by
  cases handed with
  | unserved nobody => simp
  | ended number served => simp [Ordinary, closes, kills, HandsTo]
  | taken number data note served => simp [Ordinary, closes, kills, HandsTo, served]

theorem count_ordinary {current : Option Nat} (ordinary : ∀ entry ∈ added, Ordinary current entry)
    (server : Nat) : added.countP (closes server) = 0 ∧ added.countP (kills server) = 0 := by
  constructor
  · exact List.countP_eq_zero.mpr fun entry member => by simp [((ordinary entry member).1 server).2]
  · exact List.countP_eq_zero.mpr fun entry member => by simp [((ordinary entry member).1 server).2]

theorem Kept.obeys_ordinary (kept : Kept grace view)
    (ordinary : ∀ entry ∈ added, Ordinary view.session.server entry) :
    Obeys (Tidy grace) (view.entries ++ added) := by
  refine kept.tidy.append fun before entry after split => ?_
  have usual : Ordinary view.session.server entry := ordinary entry (by simp [split])
  have before_ordinary : ∀ other ∈ before, Ordinary view.session.server other :=
    fun other member => ordinary other (by simp [split, member])
  have unclosed (server : Nat) (hands : HandsTo server entry) :
      (view.entries ++ before).countP (closes server) = 0 := by
    rw [List.countP_append, kept.closed, (count_ordinary before_ordinary server).1, usual.2 _ hands]
    simp
  cases entry with
  | serving server =>
      cases server with
      | none => trivial
      | some server => exact ((usual.1 server).1 rfl).elim
  | killed server => exact absurd (usual.1 server).2.2 (by simp [kills])
  | closed server => exact absurd (usual.1 server).2.1 (by simp [closes])
  | wrote server message data => exact unclosed server rfl
  | writeRefused server message => exact unclosed server rfl
  | _ => trivial

theorem Kept.ordinary (kept : Kept grace view)
    (ordinary : ∀ entry ∈ added, Ordinary view.session.server entry)
    (entries : view'.entries = view.entries ++ added)
    (server : view'.session.server = view.session.server) (made : view'.made = view.made) :
    Kept grace view' := by
  constructor
  · rw [entries]
    exact kept.obeys_ordinary ordinary
  · intro number
    rw [entries, List.countP_append, (count_ordinary ordinary number).1, server, made, Nat.add_zero]
    exact kept.closed number
  · intro number
    rw [entries, List.countP_append, List.countP_append, (count_ordinary ordinary number).1,
      (count_ordinary ordinary number).2]
    exact kept.killed number

/-- A server is taken when the session has none. -/
theorem Kept.taking (kept : Kept grace view) (sane : Sane view)
    (nobody : view.session.server = none) (ordinary : ∀ entry ∈ added, Ordinary none entry)
    (entries : view'.entries = view.entries ++ added ++ [.serving (some view.made)])
    (server : view'.session.server = some view.made) (made : view'.made = view.made + 1) :
    Kept grace view' := by
  have last (number : Nat) : view'.entries.countP (closes number) =
      view.entries.countP (closes number) := by
    rw [entries, List.countP_append, List.countP_append, (count_ordinary ordinary number).1]
    simp [closes]
  have last_killed (number : Nat) : view'.entries.countP (kills number) =
      view.entries.countP (kills number) := by
    rw [entries, List.countP_append, List.countP_append, (count_ordinary ordinary number).2]
    simp [kills]
  constructor
  · rw [entries]
    refine (kept.obeys_ordinary (nobody ▸ ordinary)).snoc fun number member => ?_
    have earlier : .serving (some number) ∈ view.entries := by
      rcases List.mem_append.mp member with earlier | later
      · exact earlier
      · exact (((ordinary _ later).1 number).1 rfl).elim
    -- whoever was served before was made before
    have known : number < view.made := sane.made number _ earlier rfl
    rw [List.countP_append, (count_ordinary ordinary number).1, kept.closed, nobody]
    simp [known]
  · intro number
    rw [last, kept.closed, server, made, nobody]
    by_cases newest : number = view.made
    · simp [newest]
    · have other : view.made ≠ number := Ne.symm newest
      have before : number < view.made + 1 ↔ number < view.made := by omega
      simp [other, before]
  · intro number
    rw [last, last_killed]
    exact kept.killed number

theorem count_departure (server number : Nat) (graceful running : Bool) (note : Log.Record) :
    (departure settings server graceful running note).countP (closes number) =
        (if number = server then 1 else 0) ∧
      (departure settings server graceful running note).countP (kills number) ≤
        (if number = server then 1 else 0) := by
  by_cases same : number = server
  · subst same
    cases graceful <;> cases running <;>
      simp [departure, dismissal, closes, kills]
  · have other : server ≠ number := Ne.symm same
    cases graceful <;> cases running <;>
      simp [departure, dismissal, closes, kills, same, other]

def lookedAt (settings : Settings) (server : Nat) (graceful running : Bool) : List Entry :=
  (if graceful then [.waited server settings.shutdownGrace] else []) ++ [.looked server running]

theorem ordinary_lookedAt (server : Nat) (graceful running : Bool) (current : Option Nat) :
    ∀ entry ∈ lookedAt settings server graceful running, Ordinary current entry := by
  cases graceful <;> simp [lookedAt, Ordinary, closes, kills, HandsTo]

variable {server : Nat} {earlier later : List Entry} {graceful running : Bool}

/-- A server that is seen running is killed, for the first time. -/
theorem Kept.killing (kept : Kept settings.shutdownGrace view)
    (served : view.session.server = some server)
    (since : view.entries = earlier ++ .ending server :: later)
    (inside : ∀ entry ∈ later, ¬ Borders entry)
    (hasty : graceful = false → ∀ entry ∈ later, ∃ running, entry = .looked server running) :
    Tidy settings.shutdownGrace (view.entries ++ lookedAt settings server graceful true)
      (.killed server) := by
  constructor
  · have unclosed := kept.closed server
    have unkilled := kept.killed server
    rw [unclosed, served] at unkilled
    rw [List.countP_append, (count_ordinary (ordinary_lookedAt server graceful true none) server).2]
    simpa using unkilled
  · refine ⟨earlier, later ++
      (if graceful then [.waited server settings.shutdownGrace] else []), ?_, ?_, ?_⟩
    · rw [since, lookedAt]
      simp
    · refine List.forall_mem_append.mpr ⟨inside, ?_⟩
      cases graceful <;> simp [Borders, border?]
    · rintro ⟨entry, member, hands⟩
      cases graceful with
      | true => simp
      | false =>
          obtain ⟨_, rfl⟩ := hasty rfl entry (by simpa using member)
          cases hands

theorem Kept.left (kept : Kept view.settings.shutdownGrace view) (sane : Sane view)
    (served : view.session.server = some server)
    (since : view.entries = earlier ++ .ending server :: later)
    (inside : ∀ entry ∈ later, ¬ Borders entry)
    (hasty : graceful = false → ∀ entry ∈ later, ∃ running, entry = .looked server running)
    (note : Log.Record) :
    Kept view.settings.shutdownGrace { view with
      session := view.session.left
      entries := view.entries ++ departure view.settings server graceful running note } := by
  have looked : Obeys (Tidy view.settings.shutdownGrace)
      (view.entries ++ lookedAt view.settings server graceful running) :=
    kept.obeys_ordinary (ordinary_lookedAt server graceful running _)
  -- the server of the session is the one that has not been closed yet
  have unclosed : (view.entries ++ lookedAt view.settings server graceful running).countP
      (closes server) = 0 := by
    rw [List.countP_append, kept.closed, served,
      (count_ordinary (ordinary_lookedAt server graceful running none) server).1]
    simp
  constructor
  · cases running with
    | false =>
        have parted : view.entries ++ departure view.settings server graceful false note =
            (view.entries ++ lookedAt view.settings server graceful false ++ [.closed server]) ++
              [.logged note, .dropped, .serving none] := by
          simp [departure, dismissal, lookedAt]
        rw [parted]
        have closed : Obeys _ (_ ++ [.closed server]) := looked.snoc unclosed
        exact closed.idle (by simp [Tidy])
    | true =>
        have killed := looked.snoc (kept.killing served since inside hasty)
        have waited : Obeys _ (_ ++ [.waited server view.settings.killGrace]) := killed.snoc trivial
        have parted : view.entries ++ departure view.settings server graceful true note =
            (view.entries ++ lookedAt view.settings server graceful true ++ [.killed server] ++
              [.waited server view.settings.killGrace] ++ [.closed server]) ++
              [.logged note, .dropped, .serving none] := by
          simp [departure, dismissal, lookedAt]
        rw [parted]
        refine (waited.snoc ?_).idle (by simp [Tidy])
        change List.countP _ _ = 0
        rw [List.countP_append, List.countP_append, unclosed]
        rfl
  · intro number
    have known : server < view.made := by
      have current := serving_of_standing (sane.served.trans served)
      exact sane.made server _ current rfl
    change (view.entries ++ _).countP _ = if number < view.made ∧ none ≠ some number then 1 else 0
    rw [List.countP_append, kept.closed, (count_departure server number graceful running note).1,
      served]
    by_cases same : number = server
    · simp [same, known]
    · have other : server ≠ number := Ne.symm same
      simp [same, other]
  · intro number
    change (view.entries ++ _).countP _ ≤ (view.entries ++ _).countP _
    rw [List.countP_append, List.countP_append,
      (count_departure server number graceful running note).1]
    exact Nat.add_le_add (kept.killed number)
      (count_departure server number graceful running note).2

end

theorem Closes.ordinary {settings : Settings} {view view' : View} {added : List Entry}
    (lawful : Closes settings view)
    (ordinary : ∀ entry ∈ added, Ordinary view.session.server entry)
    (entries : view'.entries = view.entries ++ added)
    (server : view'.session.server = view.session.server) (made : view'.made = view.made)
    (same : view'.settings = view.settings) : Closes settings view' := by
  refine ⟨same.trans lawful.1, lawful.2.imp (fun begun => ?_) fun kept => ?_⟩
  · rw [entries, List.any_append, begun, Bool.true_or]
  · exact kept.ordinary ordinary entries server made

instance (settings : Settings) : Upheld (Closes settings) where
  move {view view'} sane lawful move := by
    have logging (notes : List Log.Record) (current : Option Nat) :
        ∀ entry ∈ notes.map Entry.logged, Ordinary current entry :=
      fun entry noted => (minor_logged entry noted).ordinary current
    have grown (added : List Entry) (begun : view.entries.any restarts = true) :
        (view.entries ++ added).any restarts = true := by
      rw [List.any_append, begun, Bool.true_or]
    obtain ⟨rfl, kept⟩ := lawful
    have lawful : Closes view.settings view := ⟨rfl, kept⟩
    cases move with
    | aside session added same idle minor =>
        simp only [Session.essence, Prod.mk.injEq] at same
        exact lawful.ordinary (fun entry member => (minor entry member).ordinary _) rfl same.2.2.1
          rfl rfl
    | told message added other handed => exact lawful.ordinary handed.ordinary rfl rfl rfl rfl
    | refused server message served due =>
        refine lawful.ordinary ?_ rfl rfl rfl rfl
        simp [Ordinary, closes, kills, HandsTo, served]
    | answered server message data answer served due =>
        refine lawful.ordinary ?_ rfl rfl rfl rfl
        simp [Ordinary, closes, kills, HandsTo, served]
    | synced notice added ready handed => exact lawful.ordinary handed.ordinary rfl rfl rfl rfl
    | strayed notice earlier server added lawful' sane' ready served since interrupted stopping
        inside lost =>
        exact ⟨rfl, kept.imp_right fun kept => ⟨kept.tidy, kept.closed, kept.killed⟩⟩
    | opened notes unready going lost =>
        refine lawful.ordinary ?_ rfl rfl rfl rfl
        exact List.forall_mem_append.mpr
          ⟨logging notes _, by simp [Ordinary, closes, kills, HandsTo]⟩
    | begun server served going =>
        exact lawful.ordinary (by simp [Ordinary, closes, kills, HandsTo]) rfl rfl rfl rfl
    | shutting notes ready stopping => exact lawful.ordinary (logging notes _) rfl rfl rfl rfl
    | left server earlier later graceful running note stopping since inside current hasty =>
        refine ⟨rfl, ?_⟩
        rcases current with served | begun
        · exact kept.imp (grown _) fun kept => kept.left sane served since inside hasty note
        · refine .inl (grown _ (restarts_of_doing ?_))
          rw [since]
          simp [begun]
    | stopped notes stopping unready finished =>
        exact lawful.ordinary (logging notes _) rfl rfl rfl rfl
    | renewed root ready cause =>
        exact lawful.ordinary (by simp [Ordinary, closes, kills, HandsTo]) rfl rfl rfl rfl
    | adopted notes fresh free =>
        refine ⟨rfl, ?_⟩
        rcases free with nobody | begun
        · refine kept.imp (grown _) fun kept => ?_
          exact kept.taking sane nobody (logging notes none) (List.append_assoc ..).symm rfl rfl
        · exact .inl (grown _ (restarts_of_doing begun))
    | restarted root notes unready free =>
        refine ⟨rfl, ?_⟩
        rcases free with nobody | begun
        · refine kept.imp (grown _) fun kept => ?_
          have dropping : ∀ entry ∈ .dropped :: notes.map Entry.logged, Ordinary none entry :=
            List.forall_mem_cons.mpr
              ⟨by simp [Ordinary, closes, kills, HandsTo], logging notes none⟩
          exact kept.taking sane nobody dropping (by simp) rfl rfl
        · exact .inl (grown _ (restarts_of_doing begun))

/-! ## Runs -/

/-- What has become of the servers that were made. -/
structure Housekept (settings : Settings) (world : World) : Prop where
  tidy : Obeys (Tidy settings.shutdownGrace) world.journal.entries
  closed : ∀ server < world.servers.length, world.journal.entries.countP (closes server) =
    if world.session.server = some server then 0 else 1

/-- A server that is asked to end and must be killed, one that does not start, and a third. -/
def threeServers : List Step :=
  [.start "srv" [] none, .send none (.object [("id", .nat 1), ("result", .object [])]),
    .set none none fun conduct => { conduct with obeysExit := false },
    .setFactory fun conduct => { conduct with refusesStart := some "no" },
    .start "srv" [] none,
    .setFactory fun conduct => { conduct with refusesStart := none },
    .start "srv" [] none]

end Client

end LanguageSession
