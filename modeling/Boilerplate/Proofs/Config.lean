import Boilerplate.Config
import Boilerplate.Proofs.Availability
import Boilerplate.Proofs.Basic
import Boilerplate.Proofs.Identifier
import Boilerplate.Proofs.Host.Pattern
import Mathlib.Data.List.Forall2
import Mathlib.Data.List.Nodup

/-!
# What a configuration says

Evaluation checks all probes in a first pass and decides them in a second one. This module states
what comes out without the two passes: which inputs have a configuration at all, and that it then
holds, for each probe in its place, the symbol of the probe and the answer to its question.

## Main definitions

* `Probe.Check.WellFormed` — whether a probe asks a proper question
* `Probe.Check.Holds` — whether the answer to that question is yes
* `Config.IsResult` — whether a configuration is the result of some evaluation

## Main results

* `compile_eq_ok_iff` — which lists of probes pass the first pass
* `evaluate_eq_ok_iff` — the configuration for a host, entry by entry
* `evaluate_succeeds_iff` — which inputs have a configuration, and how it answers
* `IsResult.fault?_eq_none`, `IsResult.nodup_symbols` — the symbols of a result
-/

namespace Boilerplate

namespace Probe.Check

/-- Whether a probe asks a proper question: about a pattern, or about a name that is spelled as an
identifier. -/
def WellFormed : Check → Prop
  | host pattern => Pattern.IsGlob pattern
  | function name => Identifier.spellingFault? name = none

/-- Whether the answer to a probe is yes: the pattern matches the whole of the host as a glob, or
the last report about the function says that it is available. -/
def Holds (text : String) (available : Availability) : Check → Prop
  | host pattern => Pattern.Glob pattern.toList text.toList
  | function name => available.LastReport name true

instance (text : String) (available : Availability) :
    (check : Check) → Decidable (check.Holds text available)
  | host pattern => inferInstanceAs (Decidable (Pattern.Glob pattern.toList text.toList))
  | function name => inferInstanceAs (Decidable (available.LastReport name true))

end Probe.Check

namespace Config

variable {text : String} {probe : Probe} {probes : List Probe} {available : Availability}
  {config : Config} {earlier : List String} {tests : List (String × Test)}

/-! ### The first pass -/

theorem exists_testOf_iff {symbol : String} {check : Probe.Check} :
    (∃ test, testOf symbol check = .ok test) ↔ check.WellFormed := by
  cases check with
  | host pattern =>
    rw [Probe.Check.WellFormed, ← Pattern.exists_parse_iff]
    cases hparse : Pattern.parse pattern <;> simp [testOf, hparse]
  | function name =>
    cases hname : Identifier.spellingFault? name <;>
      simp [testOf, hname, Probe.Check.WellFormed]

/-- A test decides the question that it was made from. -/
theorem holds_of_testOf {symbol : String} {check : Probe.Check} {test : Test}
    (h : testOf symbol check = .ok test) (host : Host) :
    test.holds host available = decide (check.Holds host.text available) := by
  cases check with
  | host pattern =>
    cases hparse : Pattern.parse pattern with
    | error cause => simp [testOf, hparse] at h
    | ok p =>
      obtain rfl : Test.host p = test := by simpa [testOf, hparse] using h
      rw [Bool.eq_iff_iff, decide_eq_true_iff, Probe.Check.Holds,
        Pattern.toList_eq_of_parse hparse]
      exact Pattern.accepts_iff_glob (Pattern.not_isSpecial_of_parse hparse)
  | function name =>
    cases hname : Identifier.spellingFault? name with
    | some cause => simp [testOf, hname] at h
    | none =>
      obtain rfl : Test.function name = test := by simpa [testOf, hname] using h
      exact Availability.isAvailable_eq_decide

/-- A test that a probe may turn into, under the symbol of the probe. -/
def Decides (probe : Probe) (test : String × Test) : Prop :=
  testOf probe.symbol probe.check = .ok test.2 ∧ test.1 = probe.symbol

theorem compileProbe_eq_ok_iff {test : String × Test} :
    compileProbe earlier probe = .ok test ↔
      Identifier.fault? probe.symbol = none ∧ probe.symbol ∉ earlier ∧ Decides probe test := by
  obtain ⟨symbol, decision⟩ := test
  unfold compileProbe Decides
  cases Identifier.fault? probe.symbol with
  | some cause => simp
  | none =>
    by_cases hmem : probe.symbol ∈ earlier
    · simp [hmem]
    · simp only [hmem, if_false, map_eq_ok_iff, Prod.mk.injEq, not_false_eq_true, true_and]
      constructor
      · rintro ⟨_, htest, rfl, rfl⟩
        exact ⟨htest, rfl⟩
      · rintro ⟨htest, rfl⟩
        exact ⟨decision, htest, rfl, rfl⟩

/-- Probes after others are in order exactly if their symbols are identifiers, differ from each
other and from those of the others, and each probe turns into its test. -/
theorem compile_eq_ok_iff :
    compile earlier probes = .ok tests ↔
      (∀ probe ∈ probes, Identifier.fault? probe.symbol = none) ∧
        (probes.map Probe.symbol).Nodup ∧ (∀ probe ∈ probes, probe.symbol ∉ earlier) ∧
        List.Forall₂ Decides probes tests := by
  induction probes generalizing earlier tests with
  | nil => cases tests <;> simp [compile]
  | cons probe rest ih =>
    simp only [compile, bind_eq_ok_iff, pure_eq_ok_iff, compileProbe_eq_ok_iff, ih,
      List.forall_mem_cons, List.map_cons, List.nodup_cons, List.forall₂_cons_left_iff,
      List.mem_append, List.mem_singleton, not_or]
    constructor
    · rintro ⟨test, ⟨hfault, hnew, htest⟩, others, ⟨hfaults, hnodup, hrest, hothers⟩, rfl⟩
      refine ⟨⟨hfault, hfaults⟩, ⟨?_, hnodup⟩, ⟨hnew, fun p hp => (hrest p hp).1⟩, ?_⟩
      · -- The rest was compiled with this symbol among the earlier ones, so none repeats it.
        intro hmem
        obtain ⟨other, hother, heq⟩ := List.mem_map.mp hmem
        exact (hrest other hother).2 heq
      · exact ⟨test, others, htest, hothers, rfl⟩
    · rintro ⟨⟨hfault, hfaults⟩, ⟨hfirst, hnodup⟩, ⟨hnew, hrest⟩, test, others, htest, hothers, rfl⟩
      refine ⟨test, ⟨hfault, hnew, htest⟩, others, ⟨hfaults, hnodup, ?_, hothers⟩, rfl⟩
      exact fun p hp => ⟨hrest p hp, fun heq => hfirst (heq ▸ List.mem_map_of_mem hp)⟩

/-- Probes can be turned into tests exactly if all their questions are proper. -/
theorem exists_forall₂_decides_iff :
    (∃ tests, List.Forall₂ Decides probes tests) ↔ ∀ probe ∈ probes, probe.check.WellFormed := by
  induction probes with
  | nil => simp
  | cons probe rest ih =>
    simp only [List.forall₂_cons_left_iff, List.forall_mem_cons, ← ih]
    constructor
    · rintro ⟨_, test, tests, ⟨htest, -⟩, htests, rfl⟩
      exact ⟨exists_testOf_iff.mp ⟨test.2, htest⟩, tests, htests⟩
    · intro ⟨hcheck, tests, htests⟩
      obtain ⟨test, htest⟩ : ∃ test, testOf probe.symbol probe.check = .ok test :=
        exists_testOf_iff.mpr hcheck
      exact ⟨_, (probe.symbol, test), tests, ⟨htest, rfl⟩, htests, rfl⟩

/-! ### The second pass -/

/-- The entry of a probe: its symbol, and the answer to its question. -/
def entryOf (text : String) (available : Availability) (probe : Probe) : String × Bool :=
  (probe.symbol, decide (probe.check.Holds text available))

/-- Each test yields the entry of the probe that it was made from, so none is lost or shifted. -/
theorem entries_ofTests (h : List.Forall₂ Decides probes tests) (host : Host) :
    (ofTests host available tests).entries = probes.map (entryOf host.text available) := by
  -- The two lists are walked in step: each test brings the symbol of the probe at its place.
  induction h with
  | nil => rfl
  | cons htest _ ih =>
    rw [ofTests, List.map_cons, List.map_cons, entryOf, ← htest.2, ← holds_of_testOf htest.1 host,
      ← ih, ofTests]

/-- A text has a configuration exactly if it is not blank, the symbols are identifiers and differ,
and all questions are proper. It holds the entries of the probes, in order. -/
theorem evaluate_eq_ok_iff :
    evaluate text probes available = .ok config ↔
      (∃ c ∈ text.toList, Text.isBlank c = false) ∧
        (∀ probe ∈ probes, Identifier.fault? probe.symbol = none) ∧
        (probes.map Probe.symbol).Nodup ∧ (∀ probe ∈ probes, probe.check.WellFormed) ∧
        config.entries = probes.map (entryOf text available) := by
  unfold evaluate
  cases hhost : Host.ofText? text with
  | none =>
    have hblank := Host.ofText?_eq_none_iff.mp hhost
    simp only [reduceCtorEq, false_iff, not_and]
    intro ⟨c, hc, hvisible⟩
    rw [hblank c hc] at hvisible
    exact Bool.noConfusion hvisible
  | some host =>
    obtain rfl : host.text = text := Host.ofText?_eq_some_iff.mp hhost
    simp only [map_eq_ok_iff, compile_eq_ok_iff, ← exists_forall₂_decides_iff]
    constructor
    · rintro ⟨tests, ⟨hfaults, hnodup, -, htests⟩, rfl⟩
      exact ⟨host.not_blank, hfaults, hnodup, ⟨tests, htests⟩, entries_ofTests htests host⟩
    · intro ⟨_, hfaults, hnodup, ⟨tests, htests⟩, hentries⟩
      -- A configuration is nothing but its entries, so this must be the one that is computed.
      refine ⟨tests, ⟨hfaults, hnodup, by simp, htests⟩, ?_⟩
      rw [Config.mk.injEq, hentries, ← entries_ofTests htests host]

/-! ### Results -/

/-- A configuration that evaluation gives for some host, probes and reports. -/
def IsResult (config : Config) : Prop :=
  ∃ text probes available, evaluate text probes available = .ok config

theorem IsResult.symbols_eq (h : config.IsResult) :
    ∃ probes : List Probe, config.symbols = probes.map Probe.symbol ∧
      (∀ probe ∈ probes, Identifier.fault? probe.symbol = none) ∧
      (probes.map Probe.symbol).Nodup := by
  obtain ⟨text, probes, available, heval⟩ := h
  obtain ⟨-, hfaults, hnodup, -, hentries⟩ := evaluate_eq_ok_iff.mp heval
  refine ⟨probes, ?_, hfaults, hnodup⟩
  rw [symbols, hentries, List.map_map]
  rfl

/-- The symbols of a result are identifiers. -/
theorem IsResult.fault?_eq_none (h : config.IsResult) {symbol : String}
    (hsymbol : symbol ∈ config.symbols) : Identifier.fault? symbol = none := by
  obtain ⟨probes, hsymbols, hfaults, -⟩ := h.symbols_eq
  rw [hsymbols] at hsymbol
  obtain ⟨probe, hprobe, rfl⟩ := List.mem_map.mp hsymbol
  exact hfaults probe hprobe

theorem IsResult.fault?_of_mem_entries (h : config.IsResult) :
    ∀ entry ∈ config.entries, Identifier.fault? entry.1 = none := by
  intro entry hentry
  exact h.fault?_eq_none (List.mem_map_of_mem hentry)

/-- The symbols of a result differ from each other. -/
theorem IsResult.nodup_symbols (h : config.IsResult) : config.symbols.Nodup := by
  obtain ⟨probes, hsymbols, -, hnodup⟩ := h.symbols_eq
  rw [hsymbols]
  exact hnodup

/-- A host on a single line, to see results and headers at. -/
def plainHost : Host := ⟨"a", 'a', by decide, by decide⟩

/-! ### Reading a configuration -/

/-- Asking for the symbol of a probe gives the answer of that probe. -/
theorem get?_symbol (hnodup : (probes.map Probe.symbol).Nodup)
    (hentries : config.entries = probes.map (entryOf text available)) (hprobe : probe ∈ probes) :
    config.get? probe.symbol = some (decide (probe.check.Holds text available)) := by
  rw [get?, hentries]
  refine lookup_eq_some_of_mem ?_ (List.mem_map_of_mem hprobe)
  rw [List.map_map]
  exact hnodup

/-- Asking for the symbol of a function gives what the last report about the function says, and no
without any. -/
theorem get?_function {symbol function : String} (hnodup : (probes.map Probe.symbol).Nodup)
    (hentries : config.entries = probes.map (entryOf text available))
    (hprobe : ⟨symbol, .function function⟩ ∈ probes) :
    (∀ told, available.LastReport function told → config.get? symbol = some told) ∧
      ((∀ told, ¬ available.LastReport function told) → config.get? symbol = some false) := by
  have hget : config.get? symbol = some (decide (available.LastReport function true)) :=
    get?_symbol hnodup hentries hprobe
  rw [hget]
  constructor
  · intro told hlast
    rw [← Availability.isAvailable_eq_decide, hlast.isAvailable_eq]
  · intro hnone
    rw [decide_eq_false (hnone true)]

/-- Asking for a symbol that was not probed gives nothing. -/
theorem get?_eq_none {symbol : String}
    (hentries : config.entries = probes.map (entryOf text available))
    (hsymbol : symbol ∉ probes.map Probe.symbol) : config.get? symbol = none := by
  rw [get?, hentries, lookup_eq_none_iff_not_mem, List.map_map]
  exact hsymbol

/-- The symbols that are true are those of the probes whose answer is yes, in order. -/
theorem enabled_eq (hentries : config.entries = probes.map (entryOf text available)) :
    config.enabled =
      (probes.filter fun probe => decide (probe.check.Holds text available)).map Probe.symbol := by
  rw [enabled, hentries, List.filter_map, List.map_map]
  rfl

/-- There is a configuration exactly if the host is not blank, the symbols of the probes are
identifiers and differ from each other, patterns are in the grammar of globs and functions are
spelled as identifiers. It then has one entry for each probe, in the order of the probes, with the
symbol of the probe and the answer to its question. For a function, that is what the last report
about it says, and no if there is none; of a list of reports, that is the one that no other report
about the function follows. A symbol is looked up at the one probe that has it, any other text is
unknown, and the symbols that are true stand in the order of the probes. -/
theorem evaluate_succeeds_iff (text : String) (probes : List Probe) (available : Availability) :
    ((∃ config, evaluate text probes available = .ok config) ↔
      (∃ c ∈ text.toList, Text.isBlank c = false) ∧
        (∀ probe ∈ probes, Identifier.fault? probe.symbol = none) ∧
        (probes.map Probe.symbol).Nodup ∧ ∀ probe ∈ probes, probe.check.WellFormed) ∧
    (∀ config, evaluate text probes available = .ok config →
      config.entries =
        probes.map (fun probe => (probe.symbol, decide (probe.check.Holds text available))) ∧
      (∀ probe ∈ probes, (∀ other ∈ probes, other.symbol = probe.symbol → other = probe) ∧
        config.get? probe.symbol = some (decide (probe.check.Holds text available))) ∧
      (∀ symbol function, ⟨symbol, .function function⟩ ∈ probes →
        (∀ told, available.LastReport function told → config.get? symbol = some told) ∧
          ((∀ told, ¬ available.LastReport function told) → config.get? symbol = some false)) ∧
      (∀ symbol, symbol ∉ probes.map Probe.symbol → config.get? symbol = none) ∧
      config.enabled =
        (probes.filter fun probe => decide (probe.check.Holds text available)).map
          Probe.symbol) ∧
    ∀ reports function told, (Availability.ofList reports).LastReport function told ↔
      ∃ earlier later, reports = earlier ++ (function, told) :: later ∧
        ∀ report ∈ later, report.1 ≠ function := by
  simp only [evaluate_eq_ok_iff]
  refine ⟨?_, ?_, fun reports function told => Availability.lastReport_ofList_iff⟩
  · constructor
    · intro ⟨config, hhost, hfaults, hnodup, hchecks, _⟩
      exact ⟨hhost, hfaults, hnodup, hchecks⟩
    · intro ⟨hhost, hfaults, hnodup, hchecks⟩
      exact ⟨⟨probes.map (entryOf text available)⟩, hhost, hfaults, hnodup, hchecks, rfl⟩
  · intro config ⟨_, _, hnodup, _, hentries⟩
    refine ⟨hentries, fun probe hprobe => ⟨fun other hother heq => ?_, ?_⟩,
      fun symbol function hprobe => ?_, fun symbol => ?_, ?_⟩
    · exact List.inj_on_of_nodup_map hnodup hother hprobe heq
    · exact get?_symbol hnodup hentries hprobe
    · exact get?_function hnodup hentries hprobe
    · exact get?_eq_none hentries
    · exact enabled_eq hentries

end Config

end Boilerplate
