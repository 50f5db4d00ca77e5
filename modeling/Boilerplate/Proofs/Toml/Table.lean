import Boilerplate.Proofs.Pass
import Boilerplate.Toml.Value
import Mathlib.Data.List.Perm.Basic

/-!
# Reading tables

The keys of a table differ, and their order carries no meaning: whatever is read from a table is the
same in every order of its entries. A decoder that knows all keys of a table refuses it for any
other key, whatever else the table holds. An array under a key is read item by item.

## Main definitions

* `Toml.Table.HasOther` — whether a table has a key besides the given ones

## Main results

* `lookup_of_perm`, `decode?_of_perm`, `decodeOr_of_perm`, `onlyHas_of_perm` — the order of entries
  does not matter
* `onlyHas_eq_false_iff` — what a table is refused for
* `items_eq_some`, `items_eq_none` — what is read from the items of an array
-/

namespace Boilerplate.Toml.Table

variable {t entries : Table} {key : String} {keys : List String}

theorem lookup_of_perm (h : t.Perm entries) (hnodup : (entries.map Prod.fst).Nodup) :
    t.lookup key = entries.lookup key := by
  have hkeys : (t.map Prod.fst).Perm (entries.map Prod.fst) := h.map Prod.fst
  cases hlookup : entries.lookup key with
  | none =>
    rw [lookup_eq_none_iff_not_mem] at hlookup ⊢
    rwa [hkeys.mem_iff]
  | some value =>
    obtain ⟨front, back, rfl, -⟩ := List.lookup_eq_some_iff.mp hlookup
    exact lookup_eq_some_of_mem (hkeys.nodup_iff.mpr hnodup) (h.mem_iff.mpr (by simp))

theorem decode?_of_perm {α : Type} {decode : Value → Option α} (h : t.Perm entries)
    (hnodup : (entries.map Prod.fst).Nodup) :
    t.decode? key decode = entries.decode? key decode := by
  rw [decode?, decode?, lookup_of_perm h hnodup]

theorem decodeOr_of_perm {α : Type} {decode : Value → Option α} {default : α}
    (h : t.Perm entries) (hnodup : (entries.map Prod.fst).Nodup) :
    t.decodeOr key decode default = entries.decodeOr key decode default := by
  rw [decodeOr, decodeOr, lookup_of_perm h hnodup]

theorem onlyHas_of_perm (h : t.Perm entries) : t.onlyHas keys = entries.onlyHas keys :=
  h.all_eq

/-- Whether a table has a key besides the given ones. -/
def HasOther (t : Table) (keys : List String) : Prop := ∃ entry ∈ t, entry.1 ∉ keys

theorem onlyHas_eq_false_iff : t.onlyHas keys = false ↔ t.HasOther keys := by
  simp [onlyHas, HasOther]

section Items

variable {α : Type} {decode : Value → Option α} {value : Value} {values : List Value} {xs : List α}

theorem items_eq_some (h : List.Forall₂ (fun x value => decode value = some x) xs values) :
    ((Value.array values).array? >>= List.mapM decode) = some xs :=
  mapM_eq_some_of_forall₂ h.flip

theorem items_eq_none (hvalue : value ∈ values) (h : decode value = none) :
    ((Value.array values).array? >>= List.mapM decode) = none :=
  mapM_eq_none_of_mem hvalue h

end Items

end Boilerplate.Toml.Table
