import Mathlib
import LanguageSession.Proofs.Association
import LanguageSession.Proofs.Json.Keys

/-!
# A registry as a finite map

A registry stands for a finite map from keys to handlers.  Its entries have distinct keys, and
what is done to the entries is done to the map.
-/

namespace LanguageSession

/-- The key that an id is; lists and objects are refused. -/
def Json.asKey (id : Json) : Except Fault Key :=
  match id.key? with
  | some key => .ok key
  | none => .error (.unhashable id.kindName)

theorem Json.checkKey_eq {id : Json} (plain : ∀ kind, id ≠ .foreign kind) :
    id.checkKey = id.asKey.map fun _ => () := by
  cases id with
  | foreign kind => exact absurd rfl (plain kind)
  | _ => rfl

theorem Json.sameKey_of_key {id : Json} {key : Key} (known : id.key? = some key) (other : Json) :
    other.sameKey id = decide (other.key? = some key) := by
  rw [Bool.eq_iff_iff, sameKey_iff, decide_eq_true_eq]
  constructor
  · rintro ⟨key', own, same⟩
    rw [own, ← same, known]
  · exact fun own => ⟨key, own, known⟩

theorem Json.sameKey_of_none {id : Json} (unkeyed : id.key? = none) (other : Json) :
    other.sameKey id = false := by
  rw [Bool.eq_false_iff, ne_eq, sameKey_iff]
  rintro ⟨key, -, same⟩
  rw [unkeyed] at same
  cases same

/-! ## Finite maps -/

/-- Handlers by the keys under which they wait. -/
abbrev KeyMap (Handler : Type) := Finmap fun _ : Key => Handler

namespace KeyMap

variable {Handler : Type}

def size (map : KeyMap Handler) : Nat := map.keys.card

def register (map : KeyMap Handler) (id : Json) (handler : Handler) :
    Except Fault (KeyMap Handler) := do
  let key ← id.asKey
  return map.insert key handler

/-- Nothing is compared with an id, and so nothing is refused, where there is nothing. -/
def take (map : KeyMap Handler) (id : Json) : Except Fault (Option Handler × KeyMap Handler) :=
  if map.size = 0 then .ok (none, map)
  else do
    let key ← id.asKey
    return (map.lookup key, map.erase key)

def contains (map : KeyMap Handler) (id : Json) : Except Fault Bool := do
  let key ← id.asKey
  return (map.lookup key).isSome

end KeyMap

/-! ## Entries with their keys -/

namespace Registry

variable {Handler : Type}

def keyed (entries : List (Json × Handler)) : List (Option Key × Handler) :=
  entries.map fun entry => (entry.1.key?, entry.2)

theorem keyed_insert {id : Json} {key : Key} (known : id.key? = some key) (handler : Handler)
    (entries : List (Json × Handler)) :
    keyed (insert id handler entries) = Association.put (some key) handler (keyed entries) := by
  induction entries with
  | nil => simp [insert, keyed, Association.put, known]
  | cons entry rest ih =>
      simp only [insert, keyed, List.map_cons, Association.put, Json.sameKey_of_key known,
        decide_eq_true_eq]
      split
      · next same => rw [List.map_cons, same]
      · exact congrArg _ ih

theorem keyed_eraseP {id : Json} {key : Key} (known : id.key? = some key)
    (entries : List (Json × Handler)) :
    keyed (entries.eraseP fun entry => entry.1.sameKey id) =
      (keyed entries).eraseP fun entry => entry.1 = some key := by
  induction entries with
  | nil => rfl
  | cons entry rest ih =>
      simp only [keyed, List.map_cons, List.eraseP_cons, Json.sameKey_of_key known] at ih ⊢
      by_cases same : entry.1.key? = some key
      · simp [same]
      · simp [same, ih]

theorem find?_eq_lookup {id : Json} {key : Key} (known : id.key? = some key)
    (registry : Registry Handler) :
    registry.find? id = (keyed registry.entries).lookup (some key) := by
  rw [find?]
  induction registry.entries with
  | nil => rfl
  | cons entry rest ih =>
      rw [List.find?_cons, keyed, List.map_cons, List.lookup_cons, Json.sameKey_of_key known]
      by_cases same : entry.1.key? = some key
      · simp [same]
      · simp only [same, decide_false, beq_false_of_ne (Ne.symm same)]
        exact ih

theorem find?_of_none {id : Json} (unkeyed : id.key? = none) (registry : Registry Handler) :
    registry.find? id = none := by
  have missed : registry.entries.find? (fun entry => entry.1.sameKey id) = none :=
    List.find?_eq_none.mpr fun entry _ => by simp [Json.sameKey_of_none unkeyed]
  rw [find?, missed, Option.map_none]

/-! ## Representing a map -/

/-- The entries of the registry are those of the map, under their keys. -/
structure Represents (registry : Registry Handler) (map : KeyMap Handler) : Prop where
  known : ∀ entry ∈ registry.entries, entry.1.key?.isSome
  distinct : ((keyed registry.entries).map Prod.fst).Nodup
  lookup : ∀ key, map.lookup key = (keyed registry.entries).lookup (some key)

theorem represents_empty : Represents ({} : Registry Handler) ∅ :=
  ⟨nofun, List.nodup_nil, fun _ => rfl⟩

variable {registry : Registry Handler} {map : KeyMap Handler} {id : Json}

theorem Represents.find? (represents : Represents registry map) {key : Key}
    (known : id.key? = some key) : registry.find? id = map.lookup key := by
  rw [find?_eq_lookup known, represents.lookup]

theorem Represents.size (represents : Represents registry map) : map.size = registry.size := by
  have same : ((keyed registry.entries).map Prod.fst).toFinset = map.keys.image some := by
    ext key?
    rw [List.mem_toFinset, Finset.mem_image]
    constructor
    · intro member
      obtain ⟨entry, inside, rfl⟩ := List.mem_map.mp member
      obtain ⟨origin, present, rfl⟩ := List.mem_map.mp inside
      obtain ⟨key, own⟩ := Option.isSome_iff_exists.mp (represents.known origin present)
      refine ⟨key, Finmap.mem_keys.mpr (Finmap.lookup_isSome.mp ?_), own.symm⟩
      rw [represents.lookup, Association.lookup_isSome_iff, ← own]
      exact member
    · rintro ⟨key, member, rfl⟩
      rw [← Association.lookup_isSome_iff, ← represents.lookup]
      exact Finmap.lookup_isSome.mpr (Finmap.mem_keys.mp member)
  rw [KeyMap.size, ← Finset.card_image_of_injective map.keys (Option.some_injective Key), ← same,
    List.toFinset_card_of_nodup represents.distinct, List.length_map, keyed, List.length_map]
  rfl

theorem Represents.insert (represents : Represents registry map) {key : Key}
    (known : id.key? = some key) (handler : Handler) :
    Represents ⟨insert id handler registry.entries⟩ (map.insert key handler) where
  known := by
    intro entry member
    rcases mem_insert member with before | rfl | ⟨-, used, -⟩
    · exact represents.known entry before
    · rw [known]
      rfl
    · obtain ⟨origin, present, same⟩ := List.mem_map.mp used
      rw [← same]
      exact represents.known origin present
  distinct := by
    rw [keyed_insert known]
    exact Association.nodup_put represents.distinct
  lookup := by
    intro other
    rw [keyed_insert known, Association.lookup_put]
    by_cases same : other = key
    · subst same
      rw [Finmap.lookup_insert, if_pos rfl]
    · rw [Finmap.lookup_insert_of_ne map same, represents.lookup,
        if_neg fun equal => same (Option.some.inj equal)]

theorem Represents.erase (represents : Represents registry map) {key : Key}
    (known : id.key? = some key) :
    Represents ⟨registry.entries.eraseP fun entry => entry.1.sameKey id⟩ (map.erase key) where
  known := fun entry member => represents.known entry (List.mem_of_mem_eraseP member)
  distinct := by
    rw [keyed_eraseP known]
    exact represents.distinct.sublist (List.eraseP_sublist.map Prod.fst)
  lookup := by
    intro other
    rw [keyed_eraseP known, Association.lookup_eraseP represents.distinct]
    by_cases same : other = key
    · subst same
      rw [Finmap.lookup_erase, if_pos rfl]
    · rw [Finmap.lookup_erase_ne same, represents.lookup,
        if_neg fun equal => same (Option.some.inj equal)]

/-! ## The operations -/

theorem Represents.register (represents : Represents registry map)
    (plain : ∀ kind, id ≠ .foreign kind) (handler : Handler) :
    (∃ fault, registry.register id handler = .error fault ∧
        map.register id handler = .error fault) ∨
      ∃ registry' map', registry.register id handler = .ok registry' ∧
        map.register id handler = .ok map' ∧ Represents registry' map' := by
  rw [Registry.register, KeyMap.register, Json.checkKey_eq plain, Json.asKey]
  cases known : id.key? with
  | none => exact .inl ⟨_, rfl, rfl⟩
  | some key => exact .inr ⟨_, _, rfl, rfl, represents.insert known handler⟩

theorem Represents.take (represents : Represents registry map)
    (plain : ∀ kind, id ≠ .foreign kind) :
    (∃ fault, registry.take id = .error fault ∧ map.take id = .error fault) ∨
      ∃ found registry' map', registry.take id = .ok (found, registry') ∧
        map.take id = .ok (found, map') ∧ Represents registry' map' := by
  rcases registry with ⟨_ | ⟨entry, entries⟩⟩
  · have none : map.size = 0 := represents.size
    refine .inr ⟨_, _, map, rfl, ?_, represents⟩
    rw [KeyMap.take, if_pos none]
    rfl
  · have some : map.size ≠ 0 := by
      rw [represents.size]
      exact Nat.succ_ne_zero _
    rw [Registry.take, KeyMap.take, if_neg some, Json.checkKey_eq plain, Json.asKey]
    cases known : id.key? with
    | none => exact .inl ⟨_, rfl, rfl⟩
    | some key =>
        rw [represents.find? known]
        exact .inr ⟨_, _, _, rfl, rfl, represents.erase known⟩

/-- Who waits is taken, and then nobody waits under this id. -/
theorem Represents.take_waiting (represents : Represents registry map) {handler : Handler}
    (waits : registry.find? id = some handler) :
    ∃ rest : Registry Handler, registry.take id = .ok (some handler, rest) ∧
      rest.find? id = none ∧ rest.size + 1 = registry.size := by
  obtain ⟨key, known⟩ : ∃ key, id.key? = some key := by
    refine Option.ne_none_iff_exists'.mp fun unkeyed => ?_
    rw [find?_of_none unkeyed] at waits
    cases waits
  have plain : ∀ kind, id ≠ .foreign kind := by
    rintro kind rfl
    cases known
  have hashable : id.checkKey = .ok () := by
    rw [Json.checkKey_eq plain, Json.asKey, known]
    rfl
  have erased := represents.erase known
  have member : key ∈ map.keys := by
    rw [represents.find? known] at waits
    exact Finmap.mem_keys.mpr (Finmap.mem_of_lookup_eq_some waits)
  refine ⟨⟨registry.entries.eraseP fun entry => entry.1.sameKey id⟩, ?_, ?_, ?_⟩
  · simp only [Registry.take, hashable, waits]
    split <;> rfl
  · rw [erased.find? known, Finmap.lookup_erase]
  · rw [← erased.size, ← represents.size, KeyMap.size, KeyMap.size, Finmap.keys_erase]
    exact Finset.card_erase_add_one member

theorem Represents.contains (represents : Represents registry map)
    (plain : ∀ kind, id ≠ .foreign kind) : registry.contains id = map.contains id := by
  rw [Registry.contains, KeyMap.contains, Json.checkKey_eq plain, Json.asKey]
  cases known : id.key? with
  | none => rfl
  | some key =>
      rw [represents.find? known]
      rfl

end Registry

end LanguageSession
