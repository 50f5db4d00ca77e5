import Boilerplate.Proofs.Config
import Boilerplate.Proofs.Host

/-!
# The usual operating systems

The standard probes look for the name of an operating system behind a dash, anywhere in the name of
a host. The parts of a host are found in another way, by cutting the name at its dashes from the
front. The two agree: what a standard probe finds always starts a whole segment, and the operating
system of a host is always a segment that a probe may find.

## Main definitions

* `System` — an operating system with its symbol, and `System.probe`, the probe that asks for it
* `systems` — the usual operating systems
* `Host.HasSegment` — whether a segment behind the first one starts with a name

## Main results

* `System.holds_probe_iff` — the probe of a system looks at segments
* `System.eq_of_starts` — no segment starts with the names of two systems
* `Config.evaluate_standard` — the standard probes are decided on every host
* `Config.standard_probes_agree` — what they say, told from the parts of the host
-/

namespace Boilerplate

/-- An operating system: the symbol of the probe that asks for it, and what the segment of a host
starts with that names it. -/
structure System where
  symbol : String
  name : String
  symbol_faultless : Identifier.fault? symbol = none
  name_plain : name.toList.all (fun c => c != '-' && !Pattern.isSpecial c) = true
  deriving DecidableEq

/-- The probe that asks for a system, by its name behind a dash. -/
def System.probe (system : System) : Probe :=
  ⟨system.symbol, .host ("*-" ++ system.name ++ "*")⟩

/-- The usual operating systems. -/
def systems : List System :=
  [⟨"OS_LINUX", "linux", by decide, by decide⟩, ⟨"OS_MACOS", "darwin", by decide, by decide⟩,
    ⟨"OS_WINDOWS", "mingw", by decide, by decide⟩, ⟨"OS_FREEBSD", "freebsd", by decide, by decide⟩]

theorem standard_eq_map_probe : Probe.standard = systems.map System.probe := rfl

/-- Whether a segment of a host other than the first one starts with a name. -/
def Host.HasSegment (host : Host) (name : String) : Prop :=
  ∃ part ∈ (segments host.text.toList).tail, name.toList <+: part

instance (host : Host) (name : String) : Decidable (host.HasSegment name) :=
  inferInstanceAs (Decidable (∃ part ∈ (Host.segments host.text.toList).tail, name.toList <+: part))

variable {system other : System} {host : Host} {available : Availability} {config : Config}

namespace System

/-! ### One system -/

theorem not_mem_name (system : System) : '-' ∉ system.name.toList := by
  intro hmem
  have hplain := List.all_eq_true.mp system.name_plain '-' hmem
  simp at hplain

theorem not_isSpecial_literal (system : System) :
    ∀ c ∈ '-' :: system.name.toList, Pattern.isSpecial c = false := by
  rw [List.forall_mem_cons]
  refine ⟨by decide, fun c hc => ?_⟩
  have hplain := List.all_eq_true.mp system.name_plain c hc
  simp_all

theorem toList_pattern (system : System) :
    ("*-" ++ system.name ++ "*").toList = '*' :: (('-' :: system.name.toList) ++ ['*']) := by
  simp

theorem wellFormed_probe (system : System) : system.probe.check.WellFormed := by
  refine ⟨by simp [← String.toList_inj], true, '-' :: system.name.toList, true, ?_, ?_⟩
  · rw [toList_pattern]
    rfl
  · exact fun c hc => Pattern.isSpecial_eq_false_iff.mp (system.not_isSpecial_literal c hc)

/-- A probe for a system finds a name behind a dash, which is to say at the start of a segment. -/
theorem holds_probe_iff :
    system.probe.check.Holds host.text available ↔ host.HasSegment system.name := by
  have hstar := Pattern.star_not_mem system.not_isSpecial_literal
  rw [probe, Probe.Check.Holds, toList_pattern, Pattern.glob_star_literal_star hstar]
  exact cons_isInfix_iff_exists_mem_splitOn system.not_mem_name

/-- No segment starts with the names of two systems. -/
theorem eq_of_starts {part : List Char} (h : system ∈ systems) (h' : other ∈ systems)
    (hpart : system.name.toList <+: part) (hpart' : other.name.toList <+: part) :
    other = system := by
  have hnames : ∀ system ∈ systems, ∀ other ∈ systems,
      system.name.toList <+: other.name.toList → other = system := by
    decide
  -- Of two texts that start the same segment, the shorter one starts the longer.
  rcases List.prefix_or_prefix_of_prefix hpart hpart' with hsystem | hother
  · exact hnames system h other h' hsystem
  · exact (hnames other h' system h hother).symm

end System

namespace Config

/-! ### All of them -/

/-- The configuration of the standard probes: the symbol of each system, in order, with whether a
segment behind the first one starts with the name of the system. -/
def ofSystems (host : Host) : Config :=
  ⟨systems.map fun system => (system.symbol, decide (host.HasSegment system.name))⟩

/-- On every host the standard probes have a configuration. -/
theorem evaluate_standard (host : Host) (available : Availability) :
    evaluate host.text Probe.standard available = .ok (ofSystems host) := by
  rw [evaluate_eq_ok_iff, standard_eq_map_probe]
  have hnodup : ((systems.map System.probe).map Probe.symbol).Nodup := by decide
  refine ⟨host.not_blank, ?_, hnodup, ?_, ?_⟩
  · simpa using fun system _ => system.symbol_faultless
  · simpa using fun system _ => system.wellFormed_probe
  · rw [List.map_map]
    refine List.map_congr_left fun system _ => ?_
    rw [Function.comp_apply, entryOf, decide_eq_decide.mpr System.holds_probe_iff]
    rfl

theorem get?_ofSystems (h : system ∈ systems) :
    (ofSystems host).get? system.symbol = some (decide (host.HasSegment system.name)) := by
  have hnodup : (systems.map System.symbol).Nodup := by decide
  refine lookup_eq_some_of_mem ?_ (List.mem_map_of_mem h)
  rw [ofSystems, List.map_map]
  exact hnodup

theorem enabled_ofSystems (host : Host) :
    (ofSystems host).enabled =
      (systems.filter fun system => host.HasSegment system.name).map System.symbol := by
  rw [enabled, ofSystems, List.filter_map, List.map_map]
  rfl

/-- If the segments that start with the name of some system all start with the same one, its symbol
is the only one that is true. -/
theorem enabled_eq_singleton (h : system ∈ systems)
    (honly : ∀ other ∈ systems, host.HasSegment other.name ↔ other = system) :
    (ofSystems host).enabled = [system.symbol] := by
  have hnodup : systems.Nodup := by decide
  have hfilter : (systems.filter fun other => host.HasSegment other.name) =
      systems.filter fun other => other = system :=
    List.filter_congr fun other hother => decide_eq_decide.mpr (honly other hother)
  rw [enabled_ofSystems, hfilter, List.filter_eq, List.count_eq_one_of_mem hnodup h]
  rfl

/-- The operating system of a host that starts with the name of a system is a segment that the probe
of the system finds. -/
theorem hasSegment_of_os {os : String} (hos : os ∈ host.triple.os)
    (hstarts : system.name.toList <+: os.toList) : host.HasSegment system.name :=
  ⟨os.toList, (Host.splits_split host.text.toList).os_mem_segments os hos, hstarts⟩

/-- On every host the standard probes have a configuration, and the symbol of each usual operating
system is true exactly if a segment of the host other than the first one starts with the name of the
system. So the symbol is true if the operating system of the host starts with that name; and it is
then the only one that is true, unless another segment behind the first one starts with the name of
another system. -/
theorem standard_probes_agree (host : Host) (available : Availability) :
    ∃ config, evaluate host.text Probe.standard available = .ok config ∧
      config.symbols = ["OS_LINUX", "OS_MACOS", "OS_WINDOWS", "OS_FREEBSD"] ∧
      (∀ system ∈ systems, config.get? system.symbol = some (decide
        (∃ part ∈ (Host.segments host.text.toList).tail, system.name.toList <+: part))) ∧
      ∀ system ∈ systems, ∀ os ∈ host.triple.os, system.name.toList <+: os.toList →
        config.get? system.symbol = some true ∧
          ((∀ part ∈ (Host.segments host.text.toList).tail, part ≠ os.toList →
              ∀ other ∈ systems, other ≠ system → ¬ other.name.toList <+: part) →
            config.enabled = [system.symbol]) := by
  refine ⟨ofSystems host, evaluate_standard host available, rfl, fun _ h => get?_ofSystems h, ?_⟩
  intro system h os hos hstarts
  have hsegment : host.HasSegment system.name := hasSegment_of_os hos hstarts
  refine ⟨by rw [get?_ofSystems h, decide_eq_true hsegment], fun hothers => ?_⟩
  refine enabled_eq_singleton h fun other hother => ⟨?_, fun heq => heq ▸ hsegment⟩
  rintro ⟨part, hpart, hname⟩
  -- The segment is the operating system of the host, or is one that starts with no other name.
  by_cases hpartOs : part = os.toList
  · exact System.eq_of_starts h hother hstarts (hpartOs ▸ hname)
  · by_contra hne
    exact hothers part hpart hpartOs other hother hne hname

/-- The probes also look at segments that are not the operating system of the host. -/
example : (ofSystems ⟨"x86_64-linux-darwin", 'x', by decide, by decide⟩).enabled =
    ["OS_LINUX", "OS_MACOS"] := by
  decide

end Config

end Boilerplate
