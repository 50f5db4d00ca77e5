/-!
# Checks and tables

Two things are used all over: sequences of checks, of which the first fault ends all of them, and
tables kept as lists of pairs. The lemmas of this module take both apart.

## Main results

* `bind_eq_ok_iff`, `bind_eq_error_iff` — when two checks in a row succeed, and when they fail
* `lookup_eq_none_iff_not_mem`, `lookup_eq_some_of_mem` — what a table without repeated keys holds
* `lookup_filter_ne` — a table without the pairs of one key
-/

namespace Boilerplate

variable {ε α β : Type}

/-- Two checks in a row succeed exactly if the first does and then the second. -/
theorem bind_eq_ok_iff {x : Except ε α} {f : α → Except ε β} {b : β} :
    x >>= f = .ok b ↔ ∃ a, x = .ok a ∧ f a = .ok b := by
  cases x with
  | error fault => exact ⟨fun h => (nomatch h), fun ⟨_, h, _⟩ => (nomatch h)⟩
  | ok a => exact ⟨fun h => ⟨a, rfl, h⟩, fun ⟨_, h, hf⟩ => (Except.ok.inj h) ▸ hf⟩

/-- Two checks in a row fail exactly if the first does, or else the second. -/
theorem bind_eq_error_iff {x : Except ε α} {f : α → Except ε β} {fault : ε} :
    x >>= f = .error fault ↔ x = .error fault ∨ ∃ a, x = .ok a ∧ f a = .error fault := by
  cases x <;> simp [bind, Except.bind]

theorem map_eq_ok_iff {x : Except ε α} {f : α → β} {b : β} :
    x.map f = .ok b ↔ ∃ a, x = .ok a ∧ f a = b := by
  cases x <;> simp [Except.map]

theorem map_eq_error_iff {x : Except ε α} {f : α → β} {fault : ε} :
    x.map f = .error fault ↔ x = .error fault := by
  cases x <;> simp [Except.map]

theorem pure_eq_ok_iff {a b : α} : (pure a : Except ε α) = .ok b ↔ a = b := by
  simp [pure, Except.pure]

theorem pure_ne_error {a : α} {fault : ε} : (pure a : Except ε α) ≠ .error fault := by
  simp [pure, Except.pure]

section Table

variable [BEq α] [LawfulBEq α] {table : List (α × β)} {key : α} {value : β}

theorem lookup_eq_none_iff_not_mem : table.lookup key = none ↔ key ∉ table.map Prod.fst := by
  rw [List.lookup_eq_none_iff, List.mem_map]
  constructor
  · rintro h ⟨pair, hpair, rfl⟩
    simpa using h pair hpair
  · intro h pair hpair
    simpa using fun heq => h ⟨pair, hpair, heq.symm⟩

/-- A table whose keys differ holds each of its pairs under the key of the pair. -/
theorem lookup_eq_some_of_mem (hnodup : (table.map Prod.fst).Nodup) (h : (key, value) ∈ table) :
    table.lookup key = some value := by
  obtain ⟨front, back, rfl⟩ := List.append_of_mem h
  rw [List.lookup_eq_some_iff]
  refine ⟨front, back, rfl, fun pair hpair => ?_⟩
  rw [List.map_append, List.nodup_append] at hnodup
  rw [bne_iff_ne, ne_comm]
  exact hnodup.2.2 pair.1 (List.mem_map_of_mem hpair) key List.mem_cons_self

/-- Taking all pairs of one key out of a table leaves the other keys as they are. -/
theorem lookup_filter_ne {other : α} (h : key ≠ other) :
    (table.filter fun pair => pair.1 != other).lookup key = table.lookup key := by
  induction table with
  | nil => rfl
  | cons pair table ih =>
    obtain ⟨first, content⟩ := pair
    by_cases hfirst : first = other
    · subst hfirst
      simp [List.lookup_cons, beq_false_of_ne h, ih]
    · simp [hfirst, List.lookup_cons, ih]

end Table

end Boilerplate
