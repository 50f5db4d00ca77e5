import Boilerplate.Proofs.Config
import Boilerplate.Proofs.Place

/-!
# Why there is no configuration

When several things are wrong with the input of an evaluation, a blank host comes first, and then
the first probe that is wrong. That probe is found out before anything is decided, so its fault
depends neither on what comes behind it, nor on the host, nor on what is known about functions.

## Main definitions

* `Config.Offends` — how a probe is wrong that comes after others

## Main results

* `compileProbe_eq_error_iff` — the fault of one probe
* `compile_eq_error_iff` — the fault of a list of probes
* `evaluate_blames_first` — the fault of an evaluation
-/

namespace Boilerplate.Config

variable {host : Host} {probe : Probe} {probes front back : List Probe} {available : Availability}
  {earlier : List String} {fault : Fault}

/-- How a probe is wrong that comes after probes of the given symbols. The symbol is looked at by
itself first, then compared with the earlier ones, and last it is seen how the probe is decided. -/
inductive Offends (earlier : List String) (probe : Probe) : Fault → Prop
  | badSymbol {cause : Identifier.Fault} (hsymbol : Identifier.fault? probe.symbol = some cause) :
    Offends earlier probe (.badIdentifier probe.symbol cause)
  | repeatedSymbol (hsymbol : Identifier.fault? probe.symbol = none)
    (hmem : probe.symbol ∈ earlier) : Offends earlier probe (.repeatedSymbol probe.symbol)
  | badPattern {pattern : String} {cause : Pattern.Fault}
    (hsymbol : Identifier.fault? probe.symbol = none) (hnew : probe.symbol ∉ earlier)
    (hcheck : probe.check = .host pattern) (hpattern : Pattern.parse pattern = .error cause) :
    Offends earlier probe (.badPattern probe.symbol pattern cause)
  | badFunction {name : String} {cause : Identifier.Fault}
    (hsymbol : Identifier.fault? probe.symbol = none) (hnew : probe.symbol ∉ earlier)
    (hcheck : probe.check = .function name)
    (hname : Identifier.spellingFault? name = some cause) :
    Offends earlier probe (.badIdentifier name cause)

/-! ### One probe -/

theorem Offends.compileProbe_eq (h : Offends earlier probe fault) :
    compileProbe earlier probe = .error fault := by
  unfold compileProbe
  cases h with
  | badSymbol hsymbol => rw [hsymbol]
  | repeatedSymbol hsymbol hmem =>
    rw [hsymbol]
    exact if_pos hmem
  | badPattern hsymbol hnew hcheck hpattern =>
    simp [hsymbol, hnew, hcheck, testOf, hpattern, Except.map]
  | badFunction hsymbol hnew hcheck hname =>
    simp [hsymbol, hnew, hcheck, testOf, hname, Except.map]

theorem offends_of_compileProbe (h : compileProbe earlier probe = .error fault) :
    Offends earlier probe fault := by
  unfold compileProbe at h
  cases hsymbol : Identifier.fault? probe.symbol with
  | some cause =>
    rw [hsymbol] at h
    exact Except.error.inj h ▸ .badSymbol hsymbol
  | none =>
    simp only [hsymbol] at h
    by_cases hmem : probe.symbol ∈ earlier
    · rw [if_pos hmem] at h
      exact Except.error.inj h ▸ .repeatedSymbol hsymbol hmem
    · rw [if_neg hmem, map_eq_error_iff] at h
      cases hcheck : probe.check with
      | host pattern =>
        cases hpattern : Pattern.parse pattern with
        | ok p => simp [testOf, hcheck, hpattern] at h
        | error cause =>
          simp only [testOf, hcheck, hpattern] at h
          exact Except.error.inj h ▸ .badPattern hsymbol hmem hcheck hpattern
      | function name =>
        cases hname : Identifier.spellingFault? name with
        | none => simp [testOf, hcheck, hname] at h
        | some cause =>
          simp only [testOf, hcheck, hname] at h
          exact Except.error.inj h ▸ .badFunction hsymbol hmem hcheck hname

theorem compileProbe_eq_error_iff :
    compileProbe earlier probe = .error fault ↔ Offends earlier probe fault :=
  ⟨offends_of_compileProbe, Offends.compileProbe_eq⟩

/-! ### All probes -/

theorem exists_compile_cons_iff :
    (∃ tests, compile earlier (probe :: probes) = .ok tests) ↔
      (∃ test, compileProbe earlier probe = .ok test) ∧
        ∃ tests, compile (earlier ++ [probe.symbol]) probes = .ok tests := by
  simp only [compile, bind_eq_ok_iff, pure_eq_ok_iff]
  constructor
  · rintro ⟨_, test, htest, tests, htests, -⟩
    exact ⟨⟨test, htest⟩, tests, htests⟩
  · rintro ⟨⟨test, htest⟩, tests, htests⟩
    exact ⟨test :: tests, test, htest, tests, htests, rfl⟩

theorem compile_cons_eq_error_iff :
    compile earlier (probe :: probes) = .error fault ↔ Offends earlier probe fault ∨
      (∃ test, compileProbe earlier probe = .ok test) ∧
        compile (earlier ++ [probe.symbol]) probes = .error fault := by
  simp only [compile, bind_eq_error_iff, compileProbe_eq_error_iff, pure_ne_error, and_false,
    exists_false, or_false, exists_and_right]

/-- Probes after others have the fault of the first one that is wrong after those before it. -/
theorem compile_eq_error_iff :
    compile earlier probes = .error fault ↔ ∃ probe front back, probes = front ++ probe :: back ∧
      (∃ tests, compile earlier front = .ok tests) ∧
        Offends (earlier ++ front.map Probe.symbol) probe fault := by
  induction probes generalizing earlier with
  | nil => simp [compile]
  | cons first rest ih =>
    rw [exists_some_place_cons_iff, compile_cons_eq_error_iff, ih]
    simp only [exists_compile_cons_iff, List.map_cons, List.append_assoc, List.singleton_append]
    refine or_congr (by simp [compile]) ?_
    constructor
    · rintro ⟨hfirst, probe, front, back, hrest, hfront, hprobe⟩
      exact ⟨probe, front, back, hrest, ⟨hfirst, hfront⟩, hprobe⟩
    · rintro ⟨probe, front, back, hrest, ⟨hfirst, hfront⟩, hprobe⟩
      exact ⟨hfirst, probe, front, back, hrest, hfront, hprobe⟩

/-- Behind probes that are in order, a single probe is all that can be wrong. -/
theorem compile_concat_eq_error_iff {tests : List (String × Test)}
    (h : compile earlier front = .ok tests) :
    compile earlier (front ++ [probe]) = .error fault ↔
      Offends (earlier ++ front.map Probe.symbol) probe fault := by
  simp only [compile_eq_error_iff, exists_place_append_iff, exists_or]
  rw [← compile_eq_error_iff, h, exists_some_place_cons_iff]
  simp [h]

/-- Probes behind one that is wrong change nothing. -/
theorem compile_append_of_eq_error (h : compile earlier front = .error fault)
    (back : List Probe) : compile earlier (front ++ back) = .error fault := by
  obtain ⟨probe, before, after, rfl, hbefore, hprobe⟩ := compile_eq_error_iff.mp h
  exact compile_eq_error_iff.mpr
    ⟨probe, before, after ++ back, by simp, hbefore, hprobe⟩

/-! ### Evaluations -/

theorem evaluate_eq_map (host : Host) (probes : List Probe) (available : Availability) :
    evaluate host.text probes available = (compile [] probes).map (ofTests host available) := by
  have hhost : Host.ofText? host.text = some host := Host.ofText?_eq_some_iff.mpr rfl
  rw [evaluate, hhost]

/-- The fault of an evaluation is that of its probes, unless the host is blank. -/
theorem evaluate_eq_error_iff :
    evaluate host.text probes available = .error fault ↔ compile [] probes = .error fault := by
  rw [evaluate_eq_map, map_eq_error_iff]

theorem exists_evaluate_iff :
    (∃ config, evaluate host.text probes available = .ok config) ↔
      ∃ tests, compile [] probes = .ok tests := by
  simp [evaluate_eq_map, map_eq_ok_iff]

theorem evaluate_of_blank {text : String} (h : ∀ c ∈ text.toList, Text.isBlank c = true) :
    evaluate text probes available = .error .blankHost := by
  rw [evaluate, Host.ofText?_eq_none_iff.mpr h]

/-- A blank host is the fault of an evaluation whatever the probes are. For any other host the fault
comes from the first probe that is wrong: the probes before it have a configuration, it is wrong as
a probe behind those, and the probes behind it change nothing. What is known about functions makes
no difference to the fault, and neither does the host unless it is blank. -/
theorem evaluate_blames_first :
    (∀ text probes available, (∀ c ∈ text.toList, Text.isBlank c = true) →
      evaluate text probes available = .error .blankHost) ∧
    (∀ (host : Host) front probe available config,
      evaluate host.text front available = .ok config →
        (∀ fault, evaluate host.text (front ++ [probe]) available = .error fault ↔
          Offends (front.map Probe.symbol) probe fault) ∧
        ∀ fault back, evaluate host.text (front ++ [probe]) available = .error fault →
          evaluate host.text (front ++ [probe] ++ back) available = .error fault) ∧
    (∀ (host : Host) probes available fault,
      evaluate host.text probes available = .error fault →
        ∃ front probe back, probes = front ++ [probe] ++ back ∧
          (∃ config, evaluate host.text front available = .ok config) ∧
          evaluate host.text (front ++ [probe]) available = .error fault) ∧
    (∀ text probes available available' fault, evaluate text probes available = .error fault →
      evaluate text probes available' = .error fault) ∧
    ∀ (host host' : Host) probes available fault,
      evaluate host.text probes available = .error fault →
        evaluate host'.text probes available = .error fault := by
  refine ⟨fun _ _ _ => evaluate_of_blank, ?_, ?_, ?_, ?_⟩
  · intro host front probe available config h
    obtain ⟨tests, htests⟩ := exists_evaluate_iff.mp ⟨config, h⟩
    simp only [evaluate_eq_error_iff]
    refine ⟨fun fault => ?_, fun fault back h => compile_append_of_eq_error h back⟩
    rw [compile_concat_eq_error_iff htests, List.nil_append]
  · intro host probes available fault h
    rw [evaluate_eq_error_iff] at h
    obtain ⟨probe, front, back, rfl, ⟨tests, htests⟩, hprobe⟩ := compile_eq_error_iff.mp h
    refine ⟨front, probe, back, by simp, exists_evaluate_iff.mpr ⟨tests, htests⟩, ?_⟩
    exact evaluate_eq_error_iff.mpr ((compile_concat_eq_error_iff htests).mpr hprobe)
  · intro text probes available available' fault h
    cases hhost : Host.ofText? text with
    | none =>
      have hblank := Host.ofText?_eq_none_iff.mp hhost
      rw [evaluate_of_blank hblank] at h ⊢
      exact h
    | some host =>
      obtain rfl := Host.ofText?_eq_some_iff.mp hhost
      rw [evaluate_eq_error_iff] at h ⊢
      exact h
  · intro host host' probes available fault h
    rw [evaluate_eq_error_iff] at h ⊢
    exact h

/-- A pattern that is refused comes before the keyword that is the next symbol. -/
example : evaluate "a" [⟨"A", .host "a*b"⟩, ⟨"int", .host "a"⟩] {} =
    .error (.badPattern "A" "a*b" .unsupported) := by
  decide

end Boilerplate.Config
