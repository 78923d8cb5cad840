import Mathlib
import LanguageSession.Proofs.Events.Annals

/-!
# Who is subscribed after deeds

Two accounts are given of who is subscribed after the deeds of a script.  The first repeats what
is done to the lists of listeners, where an end removes the oldest entry of its listener.  The
second goes by the subscriptions themselves: one is live until its own end is called.  They agree
if every end that is called meets its own subscription.
-/

namespace LanguageSession

namespace Subscriptions

/-! ## Subscriptions in deeds -/

def Deed.made? : Deed → Option Subscription
  | .subscribed own => some own
  | _ => none

def Deed.ended? : Deed → Option Subscription
  | .cancelled own => some own
  | _ => none

def made (deeds : List Deed) : List Subscription := deeds.filterMap Deed.made?

def ended (deeds : List Deed) : List Subscription := deeds.filterMap Deed.ended?

theorem made_snoc (deeds : List Deed) (deed : Deed) :
    made (deeds ++ [deed]) = made deeds ++ deed.made?.toList := by
  rw [made, made, List.filterMap_append, List.filterMap_cons]
  cases deed.made? <;> rfl

theorem ended_snoc (deeds : List Deed) (deed : Deed) :
    ended (deeds ++ [deed]) = ended deeds ++ deed.ended?.toList := by
  rw [ended, ended, List.filterMap_append, List.filterMap_cons]
  cases deed.ended? <;> rfl

theorem announcementsIn_append (deeds later : List Deed) :
    announcementsIn (deeds ++ later) = announcementsIn deeds + announcementsIn later :=
  List.countP_append

theorem announcementsIn_middle (before after : List Deed) (number : Nat) (event : Event) :
    announcementsIn (before ++ .announced number event :: after) =
      announcementsIn before + announcementsIn after + 1 := by
  rw [announcementsIn_append]
  exact congrArg (announcementsIn before + ·) (List.countP_cons_of_pos rfl)

/-! ## Where deeds may stand -/

/--
Subscriptions and announcements have the next number, only what was made is ended, and only what
was announced is told.
-/
def Deed.Fits (before : List Deed) : Deed → Prop
  | .subscribed own => own.number = (made before).length
  | .cancelled own => own ∈ made before
  | .announced number _ => number = announcementsIn before
  | .told number event _ => .announced number event ∈ before

def Placed (deeds : List Deed) : Prop :=
  ∀ before deed after, deeds = before ++ deed :: after → deed.Fits before

theorem append_eq_append_cons {α : Type} {first second before after : List α} {item : α}
    (split : first ++ second = before ++ item :: after) :
    (∃ middle, before = first ++ middle ∧ second = middle ++ item :: after) ∨
      ∃ rest, after = rest ++ second ∧ first = before ++ item :: rest := by
  rcases List.append_eq_append_iff.mp split with ⟨middle, rfl, ends⟩ | ⟨middle, begins, ends⟩
  · exact .inl ⟨middle, rfl, ends⟩
  · rcases List.cons_eq_append_iff.mp ends with ⟨rfl, rfl⟩ | ⟨rest, rfl, rfl⟩
    · exact .inl ⟨[], by simpa using begins.symm, rfl⟩
    · exact .inr ⟨rest, rfl, begins⟩

theorem snoc_eq_append_cons {α : Type} {first before after : List α} {last item : α}
    (split : first ++ [last] = before ++ item :: after) :
    (before = first ∧ item = last ∧ after = []) ∨
      ∃ rest, after = rest ++ [last] ∧ first = before ++ item :: rest := by
  rcases append_eq_append_cons split with ⟨middle, rfl, ends⟩ | earlier
  · rcases List.singleton_eq_append_iff.mp ends with ⟨rfl, alone⟩ | ⟨-, ⟨⟩⟩
    obtain ⟨rfl, rfl⟩ := List.cons_eq_cons.mp alone
    exact .inl ⟨by simp, rfl, rfl⟩
  · exact .inr earlier

theorem placed_nil : Placed [] := by simp [Placed]

theorem Placed.snoc {deeds : List Deed} {deed : Deed} (placed : Placed deeds)
    (fits : deed.Fits deeds) : Placed (deeds ++ [deed]) := by
  intro before other after split
  rcases snoc_eq_append_cons split with ⟨rfl, rfl, -⟩ | ⟨rest, -, parted⟩
  · exact fits
  · exact placed before other rest parted

theorem Placed.before {deeds later : List Deed} (placed : Placed (deeds ++ later)) :
    Placed deeds := by
  rintro before deed after rfl
  exact placed before deed (after ++ later) (by simp)

theorem Placed.last {deeds : List Deed} {deed : Deed} (placed : Placed (deeds ++ [deed])) :
    deed.Fits deeds := placed deeds deed [] rfl

theorem Placed.numbers {deeds : List Deed} (placed : Placed deeds) :
    (made deeds).map Subscription.number = List.range (made deeds).length := by
  induction deeds using List.reverseRecOn with
  | nil => rfl
  | append_singleton deeds deed ih =>
      have fits := placed.last
      rw [made_snoc, List.map_append, List.length_append, ih placed.before]
      cases deed with
      | subscribed own =>
          have next : own.number = (made deeds).length := fits
          simp [Deed.made?, List.range_succ, next]
      | _ => simp [Deed.made?]

theorem Placed.announced_lt {deeds : List Deed} {number : Nat} {event : Event}
    (placed : Placed deeds) (announced : .announced number event ∈ deeds) :
    number < announcementsIn deeds := by
  obtain ⟨before, after, rfl⟩ := List.append_of_mem announced
  have next : number = announcementsIn before := placed before _ after rfl
  rw [announcementsIn_middle]
  omega

theorem Placed.nodup {deeds : List Deed} (placed : Placed deeds) : (made deeds).Nodup :=
  List.Nodup.of_map Subscription.number (placed.numbers ▸ List.nodup_range)

/-- What is ended was made. -/
theorem Placed.ended_subset {deeds : List Deed} (placed : Placed deeds) :
    ended deeds ⊆ made deeds := by
  induction deeds using List.reverseRecOn with
  | nil => exact List.nil_subset _
  | append_singleton deeds deed ih =>
      have fits := placed.last
      have earlier := ih placed.before
      rw [made_snoc, ended_snoc]
      refine List.append_subset.mpr ⟨List.subset_append_of_subset_left _ earlier, ?_⟩
      cases deed with
      | cancelled own => exact List.cons_subset.mpr ⟨List.mem_append_left _ fits, List.nil_subset _⟩
      | _ => exact List.nil_subset _

/-! ## Repeating the deeds -/

/-- What a deed does to the lists of listeners. -/
def Deed.apply (subscriptions : Subscriptions Nat) : Deed → Subscriptions Nat
  | .subscribed own => subscriptions.subscribe own.channel own.who
  | .cancelled own => subscriptions.unsubscribe own.channel own.who
  | _ => subscriptions

def replay (deeds : List Deed) : Subscriptions Nat := deeds.foldl Deed.apply {}

theorem replay_snoc (deeds : List Deed) (deed : Deed) :
    replay (deeds ++ [deed]) = deed.apply (replay deeds) := by
  simp [replay]

theorem on_modify (subscriptions : Subscriptions Nat) (channel other : Channel)
    (change : List Nat → List Nat) : (subscriptions.modify channel change).on other =
      if channel = other then change (subscriptions.on other) else subscriptions.on other := by
  cases channel <;> cases other <;> rfl

/-! ## Live subscriptions -/

/-- The subscriptions to a channel whose own ends have not been called. -/
def live (channel : Channel) (deeds : List Deed) : List Subscription :=
  (made deeds).filter fun own => own.channel = channel ∧ own ∉ ended deeds

/--
The live subscriptions of the listener of this one from the oldest on, as far as no other listener
comes between them.
-/
def foremost (deeds : List Deed) (own : Subscription) : List Subscription :=
  ((live own.channel deeds).dropWhile fun other => other.who ≠ own.who).takeWhile
    fun other => other.who = own.who

/-- What ends this subscription removes it, or else nothing. -/
def Meets (deeds : List Deed) (own : Subscription) : Prop :=
  foremost deeds own = [] ∨ own ∈ foremost deeds own

/-- Whenever what ends a subscription is called, it meets that subscription. -/
def Straight (deeds : List Deed) : Prop :=
  ∀ before own after, deeds = before ++ .cancelled own :: after → Meets before own

theorem Straight.before {deeds later : List Deed} (straight : Straight (deeds ++ later)) :
    Straight deeds := by
  rintro before own after rfl
  exact straight before own (after ++ later) (by simp)

theorem live_subscribed {deeds : List Deed} {own : Subscription}
    (placed : Placed (deeds ++ [.subscribed own])) (channel : Channel) :
    live channel (deeds ++ [.subscribed own]) =
      if own.channel = channel then live channel deeds ++ [own] else live channel deeds := by
  have fresh : own ∉ made deeds := by
    have nodup := placed.nodup
    rw [made_snoc] at nodup
    exact fun member => List.disjoint_of_nodup_append nodup member (List.mem_singleton_self own)
  have unended : own ∉ ended deeds := fun member => fresh (placed.before.ended_subset member)
  rw [live, live, made_snoc, ended_snoc]
  by_cases here : own.channel = channel
  · simp [Deed.made?, Deed.ended?, here, unended]
  · simp [Deed.made?, Deed.ended?, here]

theorem live_cancelled (deeds : List Deed) (own : Subscription) (channel : Channel) :
    live channel (deeds ++ [.cancelled own]) =
      (live channel deeds).filter fun other => other ≠ own := by
  rw [live, live, made_snoc, ended_snoc, List.filter_filter]
  simp only [Deed.made?, Deed.ended?, Option.toList_none, Option.toList_some, List.append_nil,
    List.mem_append, List.mem_singleton, not_or, ← Bool.decide_and]
  exact List.filter_congr fun other _ => decide_eq_decide.mpr (by tauto)

theorem live_other {deed : Deed} (unmade : deed.made? = none) (unended : deed.ended? = none)
    (deeds : List Deed) (channel : Channel) :
    live channel (deeds ++ [deed]) = live channel deeds := by
  simp [live, made_snoc, ended_snoc, unmade, unended]

theorem Placed.live_nodup {deeds : List Deed} (placed : Placed deeds) (channel : Channel) :
    (live channel deeds).Nodup :=
  placed.nodup.filter _

section

variable {entries : List Subscription} {own : Subscription}

theorem filter_ne_of_not_mem (absent : own ∉ entries) :
    entries.filter (fun other => other ≠ own) = entries :=
  List.filter_eq_self.mpr fun other member =>
    decide_eq_true fun same : other = own => absent (same ▸ member)

/-- Without its first entry a list of one listener is as without any other that follows at once. -/
theorem map_who_eq_cons_iff (nodup : entries.Nodup) :
    entries.map Subscription.who =
        own.who :: (entries.filter fun other => other ≠ own).map Subscription.who ↔
      own ∈ entries.takeWhile fun other => other.who = own.who := by
  induction entries with
  | nil => simp
  | cons entry rest ih =>
      obtain ⟨absent, nodup⟩ := List.nodup_cons.mp nodup
      by_cases same : entry.who = own.who
      case neg => simp [same]
      by_cases first : entry = own
      · subst first
        have untouched := congrArg (List.map Subscription.who) (filter_ne_of_not_mem absent)
        simpa using untouched.symm
      · simpa [same, first, Ne.symm first] using ih nodup

theorem erase_who_iff (nodup : entries.Nodup) :
    (entries.map Subscription.who).erase own.who =
        (entries.filter fun other => other ≠ own).map Subscription.who ↔
      let front := (entries.dropWhile fun other => other.who ≠ own.who).takeWhile
        fun other => other.who = own.who
      front = [] ∨ own ∈ front := by
  induction entries with
  | nil => simp
  | cons entry rest ih =>
      obtain ⟨absent, nodup⟩ := List.nodup_cons.mp nodup
      by_cases same : entry.who = own.who
      · by_cases first : entry = own
        · subst first
          have untouched := congrArg (List.map Subscription.who) (filter_ne_of_not_mem absent)
          simpa using untouched.symm
        · have next : rest.map Subscription.who =
              own.who :: (rest.filter fun other => other ≠ own).map Subscription.who ↔
                own ∈ rest.takeWhile fun other => other.who = own.who := map_who_eq_cons_iff nodup
          simpa [same, first, Ne.symm first] using next
      · have different : entry ≠ own := fun alike => same (congrArg Subscription.who alike)
        simpa [same, different] using ih nodup

end

theorem cancelled_iff {deeds : List Deed} (placed : Placed deeds) {own : Subscription}
    (agreed : (replay deeds).on own.channel = (live own.channel deeds).map Subscription.who) :
    (replay (deeds ++ [.cancelled own])).on own.channel =
        (live own.channel (deeds ++ [.cancelled own])).map Subscription.who ↔
      Meets deeds own := by
  rw [replay_snoc, Deed.apply, unsubscribe, on_modify, if_pos rfl, agreed, live_cancelled]
  exact erase_who_iff (placed.live_nodup own.channel)

/-- The lists of listeners are those of the live subscriptions, if every end meets its own. -/
theorem replay_on_eq_live {deeds : List Deed} (placed : Placed deeds) (straight : Straight deeds)
    (channel : Channel) :
    (replay deeds).on channel = (live channel deeds).map Subscription.who := by
  induction deeds using List.reverseRecOn with
  | nil => cases channel <;> rfl
  | append_singleton deeds deed ih =>
      have earlier := ih placed.before straight.before
      cases deed with
      | subscribed own =>
          rw [replay_snoc, Deed.apply, subscribe, on_modify, live_subscribed placed, earlier]
          split <;> simp
      | cancelled own =>
          by_cases here : own.channel = channel
          · subst here
            exact (cancelled_iff placed.before earlier).mpr (straight deeds own [] rfl)
          · have absent : own ∉ live channel deeds := by simp [live, here]
            rw [replay_snoc, Deed.apply, unsubscribe, on_modify, if_neg here, live_cancelled,
              filter_ne_of_not_mem absent, earlier]
      | announced number event =>
          rw [replay_snoc, live_other rfl rfl]
          exact earlier
      | told number event who =>
          rw [replay_snoc, live_other rfl rfl]
          exact earlier

/-! ## Announcements -/

/-- Whom an announcement is told, in order. -/
def toldBy (number : Nat) (deeds : List Deed) : List Nat :=
  deeds.filterMap fun
    | .told other _ who => if other = number then some who else none
    | _ => none

theorem toldBy_append (number : Nat) (deeds later : List Deed) :
    toldBy number (deeds ++ later) = toldBy number deeds ++ toldBy number later :=
  List.filterMap_append

/--
Deeds after others.  They tell announcements from before to further listeners, and each of their
own to exactly those who are in the list when it is made.
-/
structure Tells (further : Nat → List Nat) (base added : List Deed) : Prop where
  told : ∀ number < announcementsIn base, toldBy number added = further number
  whole : ∀ before number event after, added = before ++ .announced number event :: after →
    toldBy number after = (replay (base ++ before)).on event.channel

def nobody : Nat → List Nat := fun _ => []

def only (number : Nat) (listeners : List Nat) : Nat → List Nat := fun other =>
  if other = number then listeners else []

theorem only_nil (number : Nat) : only number [] = nobody := by
  funext other
  exact ite_self []

theorem only_cons (number who : Nat) (listeners : List Nat) :
    only number (who :: listeners) =
      fun other => only number [who] other ++ only number listeners other := by
  funext other
  unfold only
  split <;> rfl

theorem tells_nil (base : List Deed) : Tells nobody base [] := ⟨fun _ _ => rfl, by simp⟩

theorem tells_of_unannounced {deed : Deed} {further : Nat → List Nat}
    (unannounced : deed.isAnnouncement = false)
    (told : ∀ number, toldBy number [deed] = further number) (base : List Deed) :
    Tells further base [deed] := by
  refine ⟨fun number _ => told number, fun before number event after split => ?_⟩
  change [] ++ [deed] = _ at split
  rcases snoc_eq_append_cons split with ⟨-, rfl, -⟩ | ⟨rest, -, parted⟩
  · cases unannounced
  · simp at parted

theorem tells_told (base : List Deed) (number : Nat) (event : Event) (who : Nat) :
    Tells (only number [who]) base [.told number event who] := by
  refine tells_of_unannounced rfl (fun other => ?_) base
  by_cases same : number = other
  · simp [toldBy, only, same]
  · simp [toldBy, only, same, Ne.symm same]

theorem Tells.append {further others : Nat → List Nat} {base added later : List Deed}
    (first : Tells further base added) (second : Tells others (base ++ added) later)
    (placed : Placed (base ++ added))
    (settled : ∀ number, announcementsIn base ≤ number → others number = []) :
    Tells (fun number => further number ++ others number) base (added ++ later) := by
  constructor
  · intro number known
    have still : number < announcementsIn (base ++ added) := by
      rw [announcementsIn_append]
      omega
    rw [toldBy_append, first.told number known, second.told number still]
  · intro before number event after split
    rcases append_eq_append_cons split with ⟨middle, rfl, ends⟩ | ⟨rest, rfl, rfl⟩
    · rw [← List.append_assoc]
      exact second.whole middle number event after ends
    · have next : number = announcementsIn (base ++ before) :=
        placed (base ++ before) (.announced number event) rest (by simp)
      rw [announcementsIn_append] at next
      have known : number <
          announcementsIn (base ++ (before ++ .announced number event :: rest)) := by
        rw [announcementsIn_append, announcementsIn_middle]
        omega
      have untold : toldBy number later = [] := by
        rw [second.told number known]
        exact settled number (by omega)
      -- The announcement is over when the later deeds begin.
      rw [toldBy_append, untold, List.append_nil]
      exact first.whole before number event rest rfl

/-- An announcement is told to those in the list, and thereafter to nobody. -/
theorem Tells.announced {base added : List Deed} {number : Nat} {event : Event}
    (next : number = announcementsIn base)
    (tells : Tells (only number ((replay base).on event.channel))
      (base ++ [.announced number event]) added) :
    Tells nobody base (.announced number event :: added) := by
  have counted : announcementsIn (base ++ [.announced number event]) = number + 1 := by
    rw [next, announcementsIn_append]
    rfl
  constructor
  · intro other known
    have different : other ≠ number := by omega
    have untold := tells.told other (by omega)
    simp only [only, if_neg different] at untold
    exact untold
  · intro before other event' after split
    cases before with
    | nil =>
        obtain ⟨same, rfl⟩ := List.cons_eq_cons.mp split
        obtain ⟨rfl, rfl⟩ := Deed.announced.inj same
        rw [List.append_nil, tells.told number (by omega)]
        exact if_pos rfl
    | cons deed before =>
        obtain ⟨rfl, parted⟩ := List.cons_eq_cons.mp split
        rw [List.append_cons]
        exact tells.whole before other event' after parted

end Subscriptions

end LanguageSession
