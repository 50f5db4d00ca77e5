import Boilerplate.Probe

/-!
# Configurations

A configuration gives every probed symbol a truth value, in the order of the probes. It is
computed from a host, the probes and what is known about functions; all probes are checked before
any is decided, so that a fault never comes with half a result. Probes are independent of each
other: if the patterns of two probes match, both symbols are true.

## Main definitions

* `Config` — the symbols and their values, in order
* `Config.json`, `Config.canonical` — a configuration as text
* `Config.Fault` — why there is no configuration, with its wording
* `Config.evaluate` — the configuration for a host
-/

namespace Boilerplate

/-- The configuration symbols and their values, in the order of the probes. -/
structure Config where
  entries : List (String × Bool) := []
  deriving DecidableEq, Repr

namespace Config

/-- The value of a symbol, if it was probed. -/
def get? (config : Config) (symbol : String) : Option Bool := config.entries.lookup symbol

/-- The symbols, in order. -/
def symbols (config : Config) : List String := config.entries.map Prod.fst

/-- The symbols that are true, in order. -/
def enabled (config : Config) : List String := (config.entries.filter Prod.snd).map Prod.fst

/-- The line of an entry in the canonical text. -/
def canonicalLine (entry : String × Bool) : String :=
  entry.1 ++ "=" ++ (if entry.2 then "1" else "0") ++ "\n"

/-- A configuration as lines that set each symbol to one or zero. -/
def canonical (config : Config) : String := String.join (config.entries.map canonicalLine)

/-- The line of an entry in the JSON text. Symbols are identifiers and need no escapes. -/
def jsonLine (entry : String × Bool) : String :=
  "  \"" ++ entry.1 ++ "\": " ++ (if entry.2 then "true" else "false")

/-- A configuration as a JSON object, its keys in order, indented by two blanks. -/
def json (config : Config) : String :=
  match config.entries with
  | [] => "\x7b\x7d"
  | entries => "\x7b\n" ++ ",\n".intercalate (entries.map jsonLine) ++ "\n\x7d"

/-- Why there is no configuration. -/
inductive Fault
  | blankHost
  | badIdentifier (name : String) (cause : Identifier.Fault)
  | repeatedSymbol (symbol : String)
  | badPattern (symbol pattern : String) (cause : Pattern.Fault)
  deriving DecidableEq, Repr

/-- The wording of a fault. -/
def Fault.message : Fault → String
  | blankHost => "host triple is empty"
  | badIdentifier name cause => cause.message name
  | repeatedSymbol symbol => "duplicate probe symbol '" ++ symbol ++ "'"
  | badPattern symbol pattern cause =>
    "probe '" ++ symbol ++ "': malformed pattern '" ++ pattern ++ "': " ++ cause.message

/-- How a probe that was found to be in order is decided. -/
inductive Test
  | host (pattern : Pattern)
  | function (name : String)
  deriving DecidableEq, Repr

/-- The outcome of a test. -/
def Test.holds (host : Host) (available : Availability) : Test → Bool
  | .host pattern => pattern.accepts host.text
  | .function name => available.isAvailable name

/-- The test of a probe for a symbol, or what is wrong with it. A function has to be spelled as an
identifier; it may be a reserved one. -/
def testOf (symbol : String) : Probe.Check → Except Fault Test
  | .host pattern =>
    match Pattern.parse pattern with
    | .ok p => .ok (.host p)
    | .error cause => .error (.badPattern symbol pattern cause)
  | .function name =>
    match Identifier.spellingFault? name with
    | none => .ok (.function name)
    | some cause => .error (.badIdentifier name cause)

/-- Checks a probe that comes after probes of the given symbols: its symbol first, and then how it
is decided. -/
def compileProbe (earlier : List String) (probe : Probe) : Except Fault (String × Test) :=
  match Identifier.fault? probe.symbol with
  | some cause => .error (.badIdentifier probe.symbol cause)
  | none =>
    if probe.symbol ∈ earlier then .error (.repeatedSymbol probe.symbol)
    else (testOf probe.symbol probe.check).map (probe.symbol, ·)

/-- Checks probes that come after probes of the given symbols. -/
def compile (earlier : List String) : List Probe → Except Fault (List (String × Test))
  | [] => .ok []
  | probe :: rest => do
    let test ← compileProbe earlier probe
    let tests ← compile (earlier ++ [probe.symbol]) rest
    return test :: tests

/-- The configuration that tests give on a host. -/
def ofTests (host : Host) (available : Availability) (tests : List (String × Test)) : Config :=
  ⟨tests.map fun test => (test.1, test.2.holds host available)⟩

/-- The configuration for a host. A blank host is the first fault; then the probes are checked in
order. -/
def evaluate (host : String) (probes : List Probe) (available : Availability) :
    Except Fault Config :=
  match Host.ofText? host with
  | none => .error .blankHost
  | some host => (compile [] probes).map (ofTests host available)

end Config

end Boilerplate
