import Mathlib

/-!
# Going through a list

What goes through a list and may fail either succeeds at every item, or stops at the first item
at which it fails.
-/

namespace LanguageSession

variable {α β ε : Type}

theorem mapM_cons_of_ok {f : α → Except ε β} {item : α} {result : β} (ends : f item = .ok result)
    (rest : List α) : (item :: rest).mapM f = (rest.mapM f).map (result :: ·) := by
  rw [List.mapM_cons, ends]
  cases rest.mapM f <;> rfl

theorem mapM_cons_of_error {f : α → Except ε β} {item : α} {error : ε}
    (ends : f item = .error error) (rest : List α) : (item :: rest).mapM f = .error error := by
  rw [List.mapM_cons, ends]
  rfl

theorem mapM_append_of_error {f : α → Except ε β} {before : List α} {item : α} {error : ε}
    (succeeds : ∀ earlier ∈ before, ∃ result, f earlier = .ok result)
    (fails : f item = .error error) (after : List α) :
    (before ++ item :: after).mapM f = .error error := by
  induction before with
  | nil => exact mapM_cons_of_error fails after
  | cons first rest ih =>
      obtain ⟨result, ends⟩ := succeeds first List.mem_cons_self
      rw [List.cons_append, mapM_cons_of_ok ends,
        ih fun earlier member => succeeds earlier (List.mem_cons_of_mem _ member)]
      rfl

theorem mapM_eq_map {f : α → Except ε β} {value : α → β} {list : List α}
    (succeeds : ∀ item ∈ list, f item = .ok (value item)) : list.mapM f = .ok (list.map value) := by
  induction list with
  | nil => rfl
  | cons first rest ih =>
      rw [mapM_cons_of_ok (succeeds first List.mem_cons_self),
        ih fun item member => succeeds item (List.mem_cons_of_mem _ member)]
      rfl

/-- Either nothing fails, or there is a first item that does. -/
theorem all_ok_or_first_error (f : α → Except ε β) (list : List α) :
    (∀ item ∈ list, ∃ result, f item = .ok result) ∨
      ∃ before item after error, list = before ++ item :: after ∧
        (∀ earlier ∈ before, ∃ result, f earlier = .ok result) ∧ f item = .error error := by
  induction list with
  | nil => exact .inl (by simp)
  | cons first rest ih =>
      cases ends : f first with
      | error error => exact .inr ⟨[], first, rest, error, rfl, by simp, ends⟩
      | ok result =>
          rcases ih with succeeds | ⟨before, item, after, error, rfl, succeeds, fails⟩
          · exact .inl (List.forall_mem_cons.mpr ⟨⟨result, ends⟩, succeeds⟩)
          · exact .inr ⟨first :: before, item, after, error, rfl,
              List.forall_mem_cons.mpr ⟨⟨result, ends⟩, succeeds⟩, fails⟩

theorem mapM_flatten (f : α → Except ε β) (lists : List (List α)) :
    (lists.mapM (List.mapM f)).map List.flatten = lists.flatten.mapM f := by
  induction lists with
  | nil => rfl
  | cons first rest ih =>
      rw [List.flatten_cons, List.mapM_append, ← ih, List.mapM_cons]
      cases first.mapM f with
      | error error => rfl
      | ok results => cases rest.mapM (List.mapM f) <;> rfl

end LanguageSession
