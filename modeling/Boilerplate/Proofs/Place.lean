/-!
# Places in lists

Checks go through a list and stop at the first element that fails. What they find there depends on
the elements in front of it, so it is stated by a place: the list is cut into what stands in front
of an element, the element, and what stands behind it. The lemmas of this module find the places of
a list from the places of its parts.

## Main results

* `exists_place_cons_iff`, `exists_some_place_cons_iff` — the first place and those behind it
* `exists_place_append_iff`, `exists_place_flatMap_iff` — the places of lists one after the other
* `exists_place_map_iff` — the places of a list whose elements are mapped
-/

namespace Boilerplate

variable {α β : Type} {x y : α} {xs ys : List α}

/-- A place in a list with a first element is the first one or lies behind it. -/
theorem exists_place_cons_iff {p : List α → Prop} :
    (∃ front back, x :: xs = front ++ y :: back ∧ p front) ↔
      x = y ∧ p [] ∨ ∃ front back, xs = front ++ y :: back ∧ p (x :: front) := by
  constructor
  · rintro ⟨front, back, hplace, hp⟩
    cases front with
    | nil => exact .inl ⟨(List.cons.inj hplace).1, hp⟩
    | cons z front =>
      obtain ⟨rfl, hrest⟩ := List.cons.inj hplace
      exact .inr ⟨front, back, hrest, hp⟩
  · rintro (⟨rfl, hp⟩ | ⟨front, back, rfl, hp⟩)
    · exact ⟨[], xs, rfl, hp⟩
    · exact ⟨x :: front, back, rfl, hp⟩

theorem exists_some_place_cons_iff {p : α → List α → Prop} :
    (∃ y front back, x :: xs = front ++ y :: back ∧ p y front) ↔
      p x [] ∨ ∃ y front back, xs = front ++ y :: back ∧ p y (x :: front) := by
  simp only [exists_place_cons_iff, exists_or, exists_eq_left']

theorem exists_place_append_iff {p : List α → Prop} :
    (∃ front back, xs ++ ys = front ++ y :: back ∧ p front) ↔
      (∃ front back, xs = front ++ y :: back ∧ p front) ∨
        ∃ front back, ys = front ++ y :: back ∧ p (xs ++ front) := by
  induction xs generalizing p with
  | nil => simp
  | cons x xs ih => simp only [List.cons_append, exists_place_cons_iff, ih, or_assoc]

variable {f : α → β} {g : α → List β} {z : β} {p : List β → Prop}

theorem exists_place_map_iff :
    (∃ front back, xs.map f = front ++ z :: back ∧ p front) ↔
      ∃ x front back, xs = front ++ x :: back ∧ f x = z ∧ p (front.map f) := by
  induction xs generalizing p with
  | nil => simp
  | cons x xs ih =>
    rw [List.map_cons, exists_place_cons_iff, ih, exists_some_place_cons_iff]
    rfl

/-- A place in the lists of all elements is a place in the list of one of them. -/
theorem exists_place_flatMap_iff :
    (∃ front back, xs.flatMap g = front ++ z :: back ∧ p front) ↔
      ∃ x front back, xs = front ++ x :: back ∧
        ∃ before after, g x = before ++ z :: after ∧ p (front.flatMap g ++ before) := by
  induction xs generalizing p with
  | nil => simp
  | cons x xs ih =>
    simp only [List.flatMap_cons, exists_place_append_iff, ih, exists_some_place_cons_iff,
      List.flatMap_nil, List.nil_append, List.append_assoc]

end Boilerplate
