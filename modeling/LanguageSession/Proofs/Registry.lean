import Mathlib
import LanguageSession.Registry.Basic

/-!
# Taking from a registry

An id that is not in use is registered behind the others.  A handler is taken from the
registry together with its id, and the others keep their order.  Ids that are numbers are told
apart by their numbers.
-/

namespace LanguageSession

@[simp] theorem sameKey_nat (first second : Nat) :
    (Json.nat first).sameKey (Json.nat second) = decide (first = second) := by
  simp [Json.nat, Json.sameKey, Json.number?]

namespace Json

theorem sameKey_of_number {key other : Json} {number : Number}
    (known : key.number? = some number) :
    key.sameKey other = decide (other.number? = some number) := by
  unfold sameKey
  split
  · cases known
  · cases known
  · rw [known]
    cases other.number? <;> simp [eq_comm]

theorem number?_of_sameKey_nat {key : Json} {n : Nat} (same : key.sameKey (.nat n) = true) :
    key.number? = some (.whole n) := by
  have known : (Json.nat n).number? = some (.whole n) := rfl
  unfold sameKey at same
  split at same
  · next null => cases null
  · next string => cases string
  · rw [known] at same
    split at same
    · next number stated found whole =>
      obtain rfl := Option.some.inj whole
      rw [found, of_decide_eq_true same]
    · cases same

theorem sameKey_of_sameKey_nat {key other : Json} {n : Nat} (same : key.sameKey (.nat n) = true)
    (same' : key.sameKey other = true) : (Json.nat n).sameKey other = true := by
  rw [sameKey_of_number (number?_of_sameKey_nat same)] at same'
  rw [sameKey_of_number rfl]
  exact same'

end Json

namespace Registry

variable {Handler : Type}

theorem insert_eq_append {id : Json} {handler : Handler} {entries : List (Json × Handler)}
    (fresh : ∀ entry ∈ entries, entry.1.sameKey id = false) :
    insert id handler entries = entries ++ [(id, handler)] := by
  induction entries with
  | nil => rfl
  | cons entry rest ih =>
      rw [insert, fresh entry List.mem_cons_self,
        ih fun other member => fresh other (List.mem_cons_of_mem _ member)]
      rfl

/-- Either the id is new, or the handler takes the place of another. -/
theorem mem_insert {id : Json} {handler : Handler} {entries : List (Json × Handler)}
    {entry : Json × Handler} (member : entry ∈ insert id handler entries) :
    entry ∈ entries ∨ entry = (id, handler) ∨
      entry.2 = handler ∧ entry.1 ∈ entries.map Prod.fst ∧ entry.1.sameKey id = true := by
  induction entries with
  | nil => exact .inr (.inl (List.mem_singleton.mp member))
  | cons first rest ih =>
      rw [insert] at member
      split at member
      · next same =>
        rcases List.mem_cons.mp member with rfl | later
        · exact .inr (.inr ⟨rfl, List.mem_cons_self, same⟩)
        · exact .inl (List.mem_cons_of_mem _ later)
      · rcases List.mem_cons.mp member with rfl | later
        · exact .inl List.mem_cons_self
        · rcases ih later with known | new | ⟨taken, key, same⟩
          · exact .inl (List.mem_cons_of_mem _ known)
          · exact .inr (.inl new)
          · exact .inr (.inr ⟨taken, List.mem_cons_of_mem _ key, same⟩)

variable {registry : Registry Handler} {id : Json}

theorem take_found {entry : Json × Handler} (hashable : id.checkKey = .ok ())
    (found : registry.entries.find? (fun entry => entry.1.sameKey id) = some entry) :
    ∃ before after, registry.entries = before ++ entry :: after ∧ entry.1.sameKey id = true ∧
      registry.take id = .ok (some entry.2, ⟨before ++ after⟩) := by
  obtain ⟨same, before, after, split, others⟩ := List.find?_eq_some_iff_append.mp found
  refine ⟨before, after, split, same, ?_⟩
  have erased : registry.entries.eraseP (fun entry => entry.1.sameKey id) = before ++ after := by
    rw [split, List.eraseP_append_right _ (fun other member => by simpa using others other member),
      List.eraseP_cons, same]
    rfl
  have nonempty : registry.entries.isEmpty = false := by simp [split]
  simp only [take, find?, found, erased, nonempty, hashable]
  rfl

theorem take_missed (hashable : id.checkKey = .ok ())
    (missed : registry.entries.find? (fun entry => entry.1.sameKey id) = none) :
    registry.take id = .ok (none, registry) := by
  have erased : registry.entries.eraseP (fun entry => entry.1.sameKey id) = registry.entries :=
    List.eraseP_of_forall_not (by simpa using missed)
  simp only [take, find?, missed, erased, hashable]
  split <;> rfl

theorem take_unhashable {fault : Fault} (unhashable : id.checkKey = .error fault) :
    registry.take id = .error fault ∨ registry.take id = .ok (none, registry) := by
  rcases registry with ⟨_ | ⟨entry, entries⟩⟩
  · right
    rfl
  · left
    simp only [take, unhashable]
    rfl

/-- What taking the handler of an id brings about. -/
theorem take_cases (registry : Registry Handler) (id : Json) :
    (∃ fault, id.checkKey = .error fault ∧ registry.take id = .error fault) ∨
      registry.take id = .ok (none, registry) ∨
      ∃ before after key handler, registry.entries = before ++ (key, handler) :: after ∧
        key.sameKey id = true ∧ registry.take id = .ok (some handler, ⟨before ++ after⟩) := by
  cases hashable : id.checkKey with
  | error fault =>
      rcases take_unhashable hashable with refused | missed
      · exact .inl ⟨fault, rfl, refused⟩
      · exact .inr (.inl missed)
  | ok _ =>
      cases found : registry.entries.find? (fun entry => entry.1.sameKey id) with
      | none => exact .inr (.inl (take_missed hashable found))
      | some entry =>
          obtain ⟨before, after, split, same, taken⟩ := take_found hashable found
          exact .inr (.inr ⟨before, after, entry.1, entry.2, split, same, taken⟩)

theorem sublist_of_split {entries before after : List (Json × Handler)} {entry : Json × Handler}
    (split : entries = before ++ entry :: after) : (before ++ after).Sublist entries :=
  split ▸ (List.sublist_cons_self entry after).append_left before

theorem take_none {registry rest : Registry Handler} {id : Json}
    (taken : registry.take id = .ok (none, rest)) : rest = registry := by
  rcases take_cases registry id with ⟨fault, -, refused⟩ | missed | ⟨_, _, _, handler, -, -, found⟩
  · rw [refused] at taken
    cases taken
  · rw [missed] at taken
    cases taken
    rfl
  · rw [found] at taken
    cases taken

end Registry

end LanguageSession
