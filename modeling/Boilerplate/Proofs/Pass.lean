import Boilerplate.Proofs.Basic
import Boilerplate.Proofs.Place
import Mathlib.Data.List.Forall2

/-!
# Passes over lists

A pass reads the elements of a list one after the other. It gives a result only if every element can
be read; otherwise it ends at the first element that cannot, and what stands behind that one does
not matter.

## Main results

* `mapM_eq_ok_iff`, `mapM_eq_error_iff` — what a pass gives, and which element it ends at
* `mapM_append_eq_error_iff` — a pass over two lists, one after the other
* `mapM_eq_some_of_forall₂`, `mapM_eq_none_of_mem` — the same for passes without a reason to fail
-/

namespace Boilerplate

section Except

variable {ε α β : Type} {f : α → Except ε β} {xs ys : List α} {fault : ε}

/-- A pass succeeds exactly if every element can be read. -/
theorem mapM_eq_ok_iff {zs : List β} :
    xs.mapM f = .ok zs ↔ List.Forall₂ (fun x z => f x = .ok z) xs zs := by
  induction xs generalizing zs with
  | nil => rw [List.mapM_nil, pure_eq_ok_iff, List.forall₂_nil_left_iff, eq_comm]
  | cons x xs ih =>
    simp only [List.mapM_cons, bind_eq_ok_iff, pure_eq_ok_iff, ih, List.forall₂_cons_left_iff]
    constructor
    · rintro ⟨z, hz, zs, hzs, rfl⟩
      exact ⟨z, zs, hz, hzs, rfl⟩
    · rintro ⟨z, zs, hz, hzs, rfl⟩
      exact ⟨z, hz, zs, hzs, rfl⟩

/-- A pass fails exactly if some element cannot be read, with the fault of the first one. -/
theorem mapM_eq_error_iff :
    xs.mapM f = .error fault ↔ ∃ x front back, xs = front ++ x :: back ∧
      (∀ y ∈ front, ∃ z, f y = .ok z) ∧ f x = .error fault := by
  induction xs with
  | nil => simp [pure_ne_error]
  | cons x xs ih =>
    rw [exists_some_place_cons_iff]
    simp only [List.mapM_cons, bind_eq_error_iff, pure_ne_error, and_false, exists_false, or_false,
      ih, List.forall_mem_cons]
    refine or_congr (by simp) ?_
    constructor
    · rintro ⟨b, hb, y, front, back, rfl, hfront, hy⟩
      exact ⟨y, front, back, rfl, ⟨⟨b, hb⟩, hfront⟩, hy⟩
    · rintro ⟨y, front, back, rfl, ⟨⟨b, hb⟩, hfront⟩, hy⟩
      exact ⟨b, hb, y, front, back, rfl, hfront, hy⟩

/-- Some element of a list cannot be read exactly if a pass over it fails. -/
theorem exists_mapM_eq_error_iff :
    (∃ fault, xs.mapM f = .error fault) ↔ ∃ x ∈ xs, ∃ fault, f x = .error fault := by
  induction xs with
  | nil => simp [pure_ne_error]
  | cons x xs ih =>
    simp only [List.mapM_cons, bind_eq_error_iff, pure_ne_error, and_false, exists_false, or_false,
      exists_or, List.mem_cons, exists_eq_or_imp, ← ih]
    cases f x <;> simp

/-- A pass over two lists fails in the first, or goes through it and fails in the second. -/
theorem mapM_append_eq_error_iff :
    (xs ++ ys).mapM f = .error fault ↔ xs.mapM f = .error fault ∨
      (∃ zs, xs.mapM f = .ok zs) ∧ ys.mapM f = .error fault := by
  simp only [List.mapM_append, bind_eq_error_iff, pure_ne_error, and_false, exists_false, or_false,
    exists_and_right]

end Except

section Option

variable {α β : Type} {f : α → Option β} {x : α} {xs : List α} {ys : List β}

theorem mapM_eq_some_of_forall₂ (h : List.Forall₂ (fun x y => f x = some y) xs ys) :
    xs.mapM f = some ys := by
  induction h with
  | nil => rfl
  | cons hx _ ih => rw [List.mapM_cons, hx, ih]; rfl

theorem mapM_eq_none_of_mem (h : x ∈ xs) (hx : f x = none) : xs.mapM f = none := by
  induction xs with
  | nil => cases h
  | cons y xs ih =>
    rw [List.mapM_cons]
    rcases List.mem_cons.mp h with rfl | h
    · rw [hx]
      rfl
    · rw [ih h]
      cases f y <;> rfl

end Option

end Boilerplate
