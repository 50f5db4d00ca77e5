import Boilerplate.Probe
import Boilerplate.Toml.Document

/-!
# Probe documents

Probes may be declared in a TOML document, in an array. A probe has either a pattern for the host
or the name of a function; only a function probe may leave out its symbol. It is a table of its
members, or an array of all three of them in order, and then anything beyond them is ignored. A
table must have no other keys.

A document is first checked for its shape as a whole, and only then are the probes looked at.

## Main definitions

* `ProbeDeclaration` — what a document says about a probe
* `ProbeDeclaration.resolve` — the probe that is declared
* `Probe.parseDocument` — the probes in a document
-/

namespace Boilerplate

/-- What a document says about a probe. -/
structure ProbeDeclaration where
  symbol : Option String := none
  pattern : Option String := none
  function : Option String := none
  deriving DecidableEq, Repr

namespace Probe

/-- What is wrong with the members of a probe. -/
inductive MemberFault
  | both
  | neither
  | noSymbol
  deriving DecidableEq, Repr

/-- The wording of a fault. -/
def MemberFault.reason : MemberFault → String
  | both => "has both 'pattern' and 'function'"
  | neither => "needs one of 'pattern' or 'function'"
  | noSymbol => "pattern probes need a 'symbol'"

/-- Why a document declares no probes. -/
inductive DocumentFault
  | invalid
  | badMembers (label : String) (cause : MemberFault)
  deriving DecidableEq, Repr

/-- The wording of a fault. -/
def DocumentFault.message : DocumentFault → String
  | invalid => "invalid document"
  | badMembers label cause => "invalid probe '" ++ label ++ "': " ++ cause.reason

end Probe

namespace ProbeDeclaration

/-- The member of a table under a key, which may be absent but must be a string. -/
def member? (t : Toml.Table) (key : String) : Option (Option String) :=
  Toml.Table.decodeOr t key (fun value => value.string?.map some) none

/-- The probe that a value declares. -/
def ofValue? : Toml.Value → Option ProbeDeclaration
  | .table t =>
    if Toml.Table.onlyHas t ["symbol", "pattern", "function"] then do
      let symbol ← member? t "symbol"
      let pattern ← member? t "pattern"
      let function ← member? t "function"
      return ⟨symbol, pattern, function⟩
    else none
  | .array (symbol :: pattern :: function :: _) =>
    return ⟨some (← symbol.string?), some (← pattern.string?), some (← function.string?)⟩
  | _ => none

/-- What a fault calls a probe: its symbol, or the one that its function would give it. -/
def label (d : ProbeDeclaration) : String :=
  (d.symbol <|> d.function.map Probe.symbolOf).getD "<unnamed>"

/-- The probe that is declared, or what is wrong with its members. -/
def probe (d : ProbeDeclaration) : Except Probe.MemberFault Probe :=
  match d.symbol, d.pattern, d.function with
  | _, some _, some _ => .error .both
  | _, none, none => .error .neither
  | some symbol, some pattern, none => .ok ⟨symbol, .host pattern⟩
  | none, some _, none => .error .noSymbol
  | some symbol, none, some function => .ok ⟨symbol, .function function⟩
  | none, none, some function => .ok (Probe.forFunction function)

/-- The probe that is declared; a fault names it. -/
def resolve (d : ProbeDeclaration) : Except Probe.DocumentFault Probe :=
  match d.probe with
  | .ok probe => .ok probe
  | .error cause => .error (.badMembers d.label cause)

/-- The probes that are declared, or the first fault in any of them. -/
def resolveAll : List ProbeDeclaration → Except Probe.DocumentFault (List Probe)
  | [] => .ok []
  | d :: rest => do
    let probe ← d.resolve
    let probes ← resolveAll rest
    return probe :: probes

end ProbeDeclaration

namespace Probe

/-- The probes that a table declares in its only key. -/
def declarations? (t : Toml.Table) : Option (List ProbeDeclaration) :=
  if Toml.Table.onlyHas t ["probes"] then
    Toml.Table.decodeOr t "probes"
      (fun value => value.array? >>= List.mapM ProbeDeclaration.ofValue?) []
  else none

/-- The probes in a table. -/
def ofTable (t : Toml.Table) : Except DocumentFault (List Probe) :=
  match declarations? t with
  | none => .error .invalid
  | some declarations => ProbeDeclaration.resolveAll declarations

/-- The probes in a document. -/
def parseDocument (text : String) : Except DocumentFault (List Probe) :=
  match Toml.parse? text with
  | none => .error .invalid
  | some t => ofTable t

end Probe

end Boilerplate
