import Mathlib
import LanguageSession.Association

/-!
# Association lists

A value that is put under a key takes the place of the one that is there, or the last place.
-/

namespace LanguageSession

namespace Association

section

variable {Key Value : Type} [BEq Key] [LawfulBEq Key]

theorem lookup_isSome_iff {key : Key} {entries : List (Key × Value)} :
    (entries.lookup key).isSome = true ↔ key ∈ entries.map Prod.fst := by
  induction entries with
  | nil => simp
  | cons entry rest ih =>
      obtain ⟨first, value⟩ := entry
      by_cases same : key = first
      · simp [same]
      · simp [List.lookup_cons, beq_false_of_ne same, same, ih]

theorem lookup_eq_none_iff {key : Key} {entries : List (Key × Value)} :
    entries.lookup key = none ↔ key ∉ entries.map Prod.fst := by
  rw [← lookup_isSome_iff, Option.not_isSome_iff_eq_none]

theorem lookup_of_mem {entries : List (Key × Value)} (distinct : (entries.map Prod.fst).Nodup)
    {entry : Key × Value} (member : entry ∈ entries) :
    entries.lookup entry.1 = some entry.2 := by
  induction entries with
  | nil => cases member
  | cons first rest ih =>
      rw [List.map_cons, List.nodup_cons] at distinct
      rcases List.mem_cons.mp member with rfl | later
      · rw [List.lookup_cons, beq_self_eq_true]
      · have other : entry.1 ≠ first.1 :=
          fun same => distinct.1 (same ▸ List.mem_map_of_mem later)
        rw [List.lookup_cons, beq_false_of_ne other]
        exact ih distinct.2 later

variable [DecidableEq Key]

theorem lookup_put (key other : Key) (value : Value) (entries : List (Key × Value)) :
    (put key value entries).lookup other =
      if other = key then some value else entries.lookup other := by
  induction entries with
  | nil =>
      simp only [put, List.lookup_cons, List.lookup_nil]
      by_cases same : other = key
      · simp [same]
      · simp [same, beq_false_of_ne same]
  | cons entry rest ih =>
      obtain ⟨first, old⟩ := entry
      rw [put]
      by_cases found : first = key
      · subst found
        by_cases same : other = first
        · simp [same]
        · simp [List.lookup_cons, same, beq_false_of_ne same]
      · by_cases same : other = first
        · subst same
          simp [found]
        · simp [List.lookup_cons, found, beq_false_of_ne same, ih]

theorem lookup_filter (key other : Key) (entries : List (Key × Value)) :
    (entries.filter fun entry => entry.1 ≠ key).lookup other =
      if other = key then none else entries.lookup other := by
  induction entries with
  | nil => simp
  | cons entry rest ih =>
      obtain ⟨first, value⟩ := entry
      by_cases found : first = key
      · subst found
        by_cases same : other = first
        · simpa [same] using ih
        · simpa [List.lookup_cons, same, beq_false_of_ne same] using ih
      · by_cases same : other = first
        · subst same
          simp [found]
        · simpa [List.lookup_cons, found, beq_false_of_ne same] using ih

omit [BEq Key] [LawfulBEq Key] in
theorem eraseP_eq_filter {key : Key} {entries : List (Key × Value)}
    (distinct : (entries.map Prod.fst).Nodup) :
    (entries.eraseP fun entry => entry.1 = key) = entries.filter fun entry => entry.1 ≠ key := by
  induction entries with
  | nil => rfl
  | cons entry rest ih =>
      rw [List.map_cons, List.nodup_cons] at distinct
      by_cases found : entry.1 = key
      · have others : ∀ other ∈ rest, other.1 ≠ key := fun other member same =>
          distinct.1 (found ▸ same ▸ List.mem_map_of_mem member)
        simpa [found] using (List.filter_eq_self.mpr (by simpa using others)).symm
      · simpa [found] using ih distinct.2

theorem lookup_eraseP {key : Key} {entries : List (Key × Value)}
    (distinct : (entries.map Prod.fst).Nodup) (other : Key) :
    (entries.eraseP fun entry => entry.1 = key).lookup other =
      if other = key then none else entries.lookup other := by
  rw [eraseP_eq_filter distinct, lookup_filter]

end

section

variable {Key Value : Type} [DecidableEq Key]

theorem put_eq_append (key : Key) (value : Value) (entries : List (Key × Value)) :
    put key value entries = entries.takeWhile (fun entry => entry.1 ≠ key) ++
      (key, value) :: (entries.dropWhile fun entry => entry.1 ≠ key).tail := by
  induction entries with
  | nil => rfl
  | cons entry rest ih =>
      by_cases found : entry.1 = key
      · simp [put, found]
      · simp [put, found, ih]

theorem filter_put (key : Key) (value : Value) (entries : List (Key × Value)) :
    (put key value entries).filter (fun entry => entry.1 ≠ key) =
      entries.filter fun entry => entry.1 ≠ key := by
  induction entries with
  | nil => simp [put]
  | cons entry rest ih =>
      by_cases found : entry.1 = key
      · simp [put, found]
      · simp only [put, if_neg found, List.filter_cons, ih]

theorem put_of_not_mem {key : Key} {value : Value} {entries : List (Key × Value)}
    (h : key ∉ entries.map Prod.fst) : put key value entries = entries ++ [(key, value)] := by
  induction entries with
  | nil => rfl
  | cons entry rest ih =>
      rw [List.map_cons, List.mem_cons, not_or] at h
      simp [put, Ne.symm h.1, ih h.2]

theorem map_fst_put_of_mem {key : Key} (value : Value) {entries : List (Key × Value)}
    (h : key ∈ entries.map Prod.fst) : (put key value entries).map Prod.fst = entries.map Prod.fst := by
  induction entries with
  | nil => cases h
  | cons entry rest ih =>
      rw [put]
      split
      · next found => rw [List.map_cons, List.map_cons, found]
      · next other =>
        rw [List.map_cons, List.mem_cons] at h
        rw [List.map_cons, List.map_cons, ih (h.resolve_left (Ne.symm other))]

theorem nodup_put {key : Key} {value : Value} {entries : List (Key × Value)}
    (distinct : (entries.map Prod.fst).Nodup) : ((put key value entries).map Prod.fst).Nodup := by
  by_cases known : key ∈ entries.map Prod.fst
  · rw [map_fst_put_of_mem value known]
    exact distinct
  · rw [put_of_not_mem known, List.map_append, List.map_singleton]
    exact List.nodup_append.mpr ⟨distinct, List.nodup_singleton key, fun first member last same =>
      fun equal => known (by rwa [equal, List.mem_singleton.mp same] at member)⟩

theorem mem_put {key : Key} {value : Value} {entries : List (Key × Value)} {entry : Key × Value}
    (member : entry ∈ put key value entries) : entry ∈ entries ∨ entry = (key, value) := by
  induction entries with
  | nil => exact .inr (List.mem_singleton.mp member)
  | cons first rest ih =>
      rw [put] at member
      split at member
      · rcases List.mem_cons.mp member with same | later
        · exact .inr same
        · exact .inl (List.mem_cons_of_mem _ later)
      · rcases List.mem_cons.mp member with rfl | later
        · exact .inl List.mem_cons_self
        · exact (ih later).imp_left (List.mem_cons_of_mem _)

/-! ## Putting several values -/

def putAll (added entries : List (Key × Value)) : List (Key × Value) :=
  added.foldl (fun entries entry => put entry.1 entry.2 entries) entries

theorem mem_putAll {added entries : List (Key × Value)} {entry : Key × Value}
    (member : entry ∈ putAll added entries) : entry ∈ entries ∨ entry ∈ added := by
  induction added generalizing entries with
  | nil => exact .inl member
  | cons first added ih =>
      rcases ih member with put | later
      · rcases mem_put put with before | rfl
        · exact .inl before
        · exact .inr List.mem_cons_self
      · exact .inr (List.mem_cons_of_mem first later)

theorem nodup_putAll (added : List (Key × Value)) {entries : List (Key × Value)}
    (distinct : (entries.map Prod.fst).Nodup) : ((putAll added entries).map Prod.fst).Nodup := by
  induction added generalizing entries with
  | nil => exact distinct
  | cons first added ih => exact ih (nodup_put distinct)

end

theorem lookup_putAll {Key Value : Type} [BEq Key] [LawfulBEq Key] [DecidableEq Key]
    {added : List (Key × Value)} (distinct : (added.map Prod.fst).Nodup)
    (entries : List (Key × Value)) (key : Key) :
    (putAll added entries).lookup key = (added.lookup key).or (entries.lookup key) := by
  induction added generalizing entries with
  | nil => rfl
  | cons first added ih =>
      rw [List.map_cons, List.nodup_cons] at distinct
      refine (ih distinct.2 (put first.1 first.2 entries)).trans ?_
      rw [lookup_put, List.lookup_cons]
      by_cases same : key = first.1
      · subst same
        simp [lookup_eq_none_iff.mpr distinct.1]
      · simp [same, beq_false_of_ne same]

end Association

end LanguageSession
