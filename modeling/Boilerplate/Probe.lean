import Boilerplate.Host.Pattern
import Boilerplate.Identifier

/-!
# Probes

A probe decides one configuration symbol: either by matching the host against a pattern, or by
asking whether a function is available. Which functions are available is told from outside;
nothing is compiled here to find out.

## Main definitions

* `Probe` — a symbol, and how it is decided
* `Probe.symbolOf` — the symbol that a function probe has unless another one is given
* `Probe.standard` — the probes for the usual operating systems
* `Availability` — what is known about functions
-/

namespace Boilerplate

/-- How a symbol is decided: by the pattern that the host must match, or by the function that must
be available. -/
inductive Probe.Check
  | host (pattern : String)
  | function (name : String)
  deriving DecidableEq, Repr

/-- A configuration symbol, and how it is decided. -/
structure Probe where
  symbol : String
  check : Probe.Check
  deriving DecidableEq, Repr

namespace Probe

/-- The symbol that says whether a function is available. -/
def symbolOf (function : String) : String := "HAVE_" ++ Identifier.macroCase function

/-- The probe that asks for a function, under the symbol derived from its name. -/
def forFunction (function : String) : Probe := ⟨symbolOf function, .function function⟩

/-- The probes for the usual operating systems. -/
def standard : List Probe :=
  [⟨"OS_LINUX", .host "*-linux*"⟩, ⟨"OS_MACOS", .host "*-darwin*"⟩,
    ⟨"OS_WINDOWS", .host "*-mingw*"⟩, ⟨"OS_FREEBSD", .host "*-freebsd*"⟩]

end Probe

/-- What is known about functions, the latest report first. -/
structure Availability where
  reports : List (String × Bool) := []
  deriving DecidableEq, Repr

namespace Availability

/-- Adds a report about a function, which replaces what was known about it. -/
def record (a : Availability) (function : String) (available : Bool) : Availability :=
  ⟨(function, available) :: a.reports⟩

/-- What a list of reports says, the latest report last. -/
def ofList (reports : List (String × Bool)) : Availability := ⟨reports.reverse⟩

/-- Whether a function is available: the latest report about it, and no without any. -/
def isAvailable (a : Availability) (function : String) : Bool :=
  (a.reports.lookup function).getD false

@[simp] theorem isAvailable_record_self (a : Availability) (function : String) (available : Bool) :
    (a.record function available).isAvailable function = available := by
  simp [record, isAvailable]

@[simp] theorem isAvailable_record_of_ne (a : Availability) {function other : String}
    (available : Bool) (h : other ≠ function) :
    (a.record function available).isAvailable other = a.isAvailable other := by
  simp [record, isAvailable, List.lookup_cons, beq_false_of_ne h]

end Availability

end Boilerplate
