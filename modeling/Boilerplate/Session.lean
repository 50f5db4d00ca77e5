import Boilerplate.Config.Header
import Boilerplate.Probe.Document
import Boilerplate.Style.Document

/-!
# Sessions

A session is a sequence of steps that build up a host, probes, reports about functions and a
style, and evaluate them now and then. The latest configuration that was evaluated is remembered,
whatever changes after it. A step that fails changes nothing, except that a host is set even if it
is blank.

## Main definitions

* `Session` — everything that a later step can depend on
* `Session.Step`, `Session.Answer` — a step, and what it is answered with
* `Session.step`, `Session.run` — carries out a step, or a sequence of steps
-/

namespace Boilerplate

/-- Everything that a later step can depend on. -/
structure Session where
  host : String := ""
  probes : List Probe := []
  available : Availability := {}
  style : Style := {}
  /-- The latest configuration that was evaluated. -/
  latest : Config := {}
  deriving DecidableEq, Repr

namespace Session

/-- A step of a session. -/
inductive Step
  | setHost (text : String)
  | addStandard
  | addProbe (probe : Probe)
  | addDocument (text : String)
  | dropProbe
  | report (function : String) (available : Bool)
  | askAvailable (function : String)
  | setStyle (text : String)
  | evaluate
  | askSymbol (symbol : String)
  | header
  deriving DecidableEq, Repr

/-- Why a step fails. -/
inductive Fault
  | document (cause : Probe.DocumentFault)
  | style
  | config (cause : Config.Fault)
  deriving DecidableEq, Repr

/-- What a step is answered with. -/
inductive Answer
  | done
  | triple (parts : Triple)
  | symbols (names : List String)
  | truth (b : Bool)
  | config (result : Config)
  | value (v : Option Bool)
  | text (t : String)
  | fault (cause : Fault)
  deriving DecidableEq, Repr

/-- The symbols of all probes, in order. -/
def symbols (s : Session) : List String := s.probes.map Probe.symbol

/-- A session with more probes at the end, answered with the symbols of all of them. -/
def addProbes (s : Session) (probes : List Probe) : Session × Answer :=
  let s' := { s with probes := s.probes ++ probes }
  (s', .symbols s'.symbols)

/-- Carries out a step. -/
def step (s : Session) : Step → Session × Answer
  | .setHost text =>
    ({ s with host := text },
      match Host.ofText? text with
      | some host => .triple host.triple
      | none => .fault (.config .blankHost))
  | .addStandard => s.addProbes Probe.standard
  | .addProbe probe => s.addProbes [probe]
  | .addDocument text =>
    match Probe.parseDocument text with
    | .ok probes => s.addProbes probes
    | .error cause => (s, .fault (.document cause))
  | .dropProbe =>
    let s' := { s with probes := s.probes.dropLast }
    (s', .symbols s'.symbols)
  | .report function available =>
    let s' := { s with available := s.available.record function available }
    (s', .truth (s'.available.isAvailable function))
  | .askAvailable function => (s, .truth (s.available.isAvailable function))
  | .setStyle text =>
    match Style.parse? text with
    | some style => ({ s with style }, .done)
    | none => (s, .fault .style)
  | .evaluate =>
    match Config.evaluate s.host s.probes s.available with
    | .ok config => ({ s with latest := config }, .config config)
    | .error cause => (s, .fault (.config cause))
  | .askSymbol symbol => (s, .value (s.latest.get? symbol))
  | .header =>
    match Host.ofText? s.host with
    | some host => (s, .text (s.latest.header host s.style))
    | none => (s, .fault (.config .blankHost))

/-- Carries out steps one after the other, and collects the answers. -/
def run (s : Session) : List Step → Session × List Answer
  | [] => (s, [])
  | x :: rest =>
    let (s', answer) := s.step x
    let (s'', answers) := s'.run rest
    (s'', answer :: answers)

end Session

end Boilerplate
