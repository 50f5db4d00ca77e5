import Boilerplate.Proofs.Config
import Boilerplate.Proofs.Identifier.Macro

/-!
# Probes for functions

A probe that asks for a function has a symbol made from the name of the function: the name in
capitals, behind a fixed start. The function and the symbol are checked by different rules, since
the function exists already, while the symbol is to be declared. The start of the symbol is that of
no keyword and of no name that is taken, so every symbol of this kind may be declared, whatever text
it is made from.

What is left to go wrong is the spelling of the functions, and two functions with one symbol. A
symbol keeps everything of a function that is spelled as an identifier but the case of its letters.

## Main results

* `Probe.fault?_symbolOf` — the symbol of a function may be declared
* `Probe.symbolOf_eq_iff` — functions that share their symbol
* `Config.evaluate_forFunction_eq_ok_iff` — the configuration that probes for functions give
* `Config.functions_evaluate_iff` — which lists of functions can be probed together
-/

namespace Boilerplate

open Identifier (SameButCase spellingFault?)

namespace Probe

variable {function other : String} {functions : List String}

/-! ### One function -/

/-- No keyword and no name of a standard header starts like a symbol. -/
theorem not_prefix_symbol :
    ∀ name ∈ Identifier.reservedWords ++ Identifier.standardNames,
      ¬ "HAVE_".toList <+: name.toList := by
  decide

theorem symbolOf_not_mem (function : String) :
    symbolOf function ∉ Identifier.reservedWords ++ Identifier.standardNames := by
  intro hmem
  apply not_prefix_symbol _ hmem
  rw [symbolOf, String.toList_append]
  exact List.prefix_append _ _

/-- A symbol is spelled as an identifier, since a macro is where it goes on. -/
theorem spellingFault?_symbolOf (function : String) :
    spellingFault? (symbolOf function) = none := by
  have hstart : spellingFault? "HAVE_" = none := by decide
  exact Identifier.spellingFault?_append hstart fun _ => Identifier.isPart_of_mem_macroCase

/-- The symbol of a function may be declared, whatever the function is. -/
theorem fault?_symbolOf (function : String) : Identifier.fault? (symbolOf function) = none := by
  have htaken := symbolOf_not_mem function
  rw [List.mem_append, not_or] at htaken
  have hfree : Identifier.isImplementationName (symbolOf function) = false := by
    have hsymbol : (symbolOf function).toList =
        'H' :: ("AVE_".toList ++ (Identifier.macroCase function).toList) := by
      simp [symbolOf]
    rw [Identifier.isImplementationName, hsymbol]
    rfl
  rw [Identifier.fault?_of_not_mem (spellingFault?_symbolOf function) htaken.1 htaken.2, hfree]
  rfl

/-! ### Several functions -/

/-- Functions that are spelled as identifiers share their symbol exactly if they differ at most in
case. -/
theorem symbolOf_eq_iff (hfunction : spellingFault? function = none)
    (hother : spellingFault? other = none) :
    symbolOf function = symbolOf other ↔ SameButCase function other := by
  rw [symbolOf, symbolOf, String.append_right_inj]
  exact Identifier.macroCase_eq_iff hfunction hother

/-- The symbols of functions that are spelled as identifiers differ exactly if the functions do so
in more than case. -/
theorem nodup_symbols_iff (h : ∀ function ∈ functions, spellingFault? function = none) :
    ((functions.map forFunction).map symbol).Nodup ↔
      functions.Pairwise fun function other => ¬ SameButCase function other := by
  rw [List.Nodup, List.map_map, List.pairwise_map]
  apply List.Pairwise.iff_of_mem
  intro function other hfunction hother
  exact not_congr (symbolOf_eq_iff (h function hfunction) (h other hother))

/-- Functions that are not spelled as identifiers may share their symbol for other reasons. -/
example : symbolOf "get-opt" = symbolOf "get_opt" := by decide

end Probe

namespace Config

variable {functions : List String} {available : Availability} {config : Config}

/-- The entry of a function says whether the function is available. -/
theorem entryOf_forFunction (text : String) (available : Availability) (function : String) :
    entryOf text available (.forFunction function) =
      (Probe.symbolOf function, available.isAvailable function) := by
  rw [Availability.isAvailable_eq_decide]
  rfl

/-- Probes for functions have a configuration on a host exactly if the functions are spelled as
identifiers and differ from each other in more than case. Its entries say which of them are
available. -/
theorem evaluate_forFunction_eq_ok_iff (host : Host) :
    evaluate host.text (functions.map Probe.forFunction) available = .ok config ↔
      (∀ function ∈ functions, spellingFault? function = none) ∧
        functions.Pairwise (fun function other => ¬ SameButCase function other) ∧
        config.entries = functions.map fun function =>
          (Probe.symbolOf function, available.isAvailable function) := by
  have hentries : (functions.map Probe.forFunction).map (entryOf host.text available) =
      functions.map fun function =>
        (Probe.symbolOf function, available.isAvailable function) := by
    rw [List.map_map]
    exact List.map_congr_left fun function _ => entryOf_forFunction host.text available function
  rw [evaluate_eq_ok_iff, hentries]
  simp only [List.forall_mem_map]
  -- The host and the symbols are always in order, so only functions can be refused.
  constructor
  · intro ⟨_, _, hnodup, hspelled, hresult⟩
    exact ⟨hspelled, (Probe.nodup_symbols_iff hspelled).mp hnodup, hresult⟩
  · intro ⟨hspelled, hapart, hresult⟩
    exact ⟨host.not_blank, fun function _ => Probe.fault?_symbolOf function,
      (Probe.nodup_symbols_iff hspelled).mpr hapart, hspelled, hresult⟩

/-- The symbol that is made from a text may always be declared, and two functions that are spelled
as identifiers have the same symbol exactly if they differ at most in case. So a list of functions
can be probed on a host, whatever is known about them, exactly if each of them is spelled as an
identifier and any two differ in more than case. -/
theorem functions_evaluate_iff :
    (∀ function, Identifier.fault? (Probe.symbolOf function) = none) ∧
      (∀ function other, spellingFault? function = none → spellingFault? other = none →
        (Probe.symbolOf function = Probe.symbolOf other ↔ SameButCase function other)) ∧
      ∀ (functions : List String) (host : Host) (available : Availability),
        (∃ config, evaluate host.text (functions.map Probe.forFunction) available = .ok config) ↔
          (∀ function ∈ functions, spellingFault? function = none) ∧
            functions.Pairwise fun function other => ¬ SameButCase function other := by
  refine ⟨Probe.fault?_symbolOf, fun _ _ => Probe.symbolOf_eq_iff, ?_⟩
  intro functions host available
  simp only [evaluate_forFunction_eq_ok_iff]
  constructor
  · intro ⟨_, hspelled, hapart, _⟩
    exact ⟨hspelled, hapart⟩
  · intro ⟨hspelled, hapart⟩
    exact ⟨⟨_⟩, hspelled, hapart, rfl⟩

/-- Functions that differ in case, with names that may not be declared, share their symbol. They
cannot be probed together, while each of them can on its own. -/
theorem functions_evaluate_iff_at_exit :
    spellingFault? "_Exit" = none ∧ spellingFault? "_exit" = none ∧
      Probe.symbolOf "_Exit" = Probe.symbolOf "_exit" ∧
      (∃ config, evaluate "a" [.forFunction "_Exit"] {} = .ok config) ∧
      ¬ ∃ config, evaluate "a" [.forFunction "_Exit", .forFunction "_exit"] {} = .ok config := by
  have hupper : spellingFault? "_Exit" = none := by decide
  have hlower : spellingFault? "_exit" = none := by decide
  have hsame : SameButCase "_Exit" "_exit" := by decide
  refine ⟨hupper, hlower, (functions_evaluate_iff.2.1 _ _ hupper hlower).mpr hsame, ?_, ?_⟩
  · exact (functions_evaluate_iff.2.2 ["_Exit"] plainHost {}).mpr ⟨by simp [hupper], by simp⟩
  · intro h
    have hapart := ((functions_evaluate_iff.2.2 ["_Exit", "_exit"] plainHost {}).mp h).2
    exact List.rel_of_pairwise_cons hapart List.mem_cons_self hsame

end Config

end Boilerplate
