import Boilerplate.Proofs.Basic
import Boilerplate.Proofs.Record
import Boilerplate.Schema

/-!
# Which schemas are accepted

Generation compares names in three passes: the names of the records, then each record on its own,
and last the files and functions that the records put into the program. This module shows what the
passes come to: the records have no faults, their names differ in more than case, and no function
name belongs to two of them.

## Main definitions

* `Schema.Clashes` — whether two records cannot be in one program

## Main results

* `firstClash?_eq_none_iff` — a list of keys has no clash exactly if no key repeats
* `checkAll_eq_ok_iff`, `exists_checkAll_iff` — which lists of records pass the second pass
* `generate_eq_ok_iff` — what the three passes compute
* `clashes_iff` — two records clash if both put something into the program
* `nodup_outputs_iff_pairwise`, `nodup_outputs_iff` — when no file and no function has two owners
* `generate_succeeds_iff` — which schemas are accepted, and with which result
-/

namespace Boilerplate.Schema

open Identifier (SameButCase)

variable {records : List Record} {units : List Record.Checked} {unit other : Record.Checked}

/-- No key is taken twice exactly if the keys of the list differ from each other and from those
that were taken before. -/
theorem firstClash?_eq_none_iff {α β : Type} [BEq α] [LawfulBEq α] {taken pairs : List (α × β)} :
    firstClash? taken pairs = none ↔
      (pairs.map Prod.fst).Nodup ∧ ∀ key ∈ pairs.map Prod.fst, key ∉ taken.map Prod.fst := by
  induction pairs generalizing taken with
  | nil => simp [firstClash?]
  | cons pair rest ih =>
    obtain ⟨key, owner⟩ := pair
    unfold firstClash?
    cases htaken : taken.lookup key with
    | some first =>
      have hkey : key ∈ taken.map Prod.fst := by
        by_contra h
        simp [lookup_eq_none_iff_not_mem.mpr h] at htaken
      exact ⟨fun h => (nomatch h), fun h => absurd hkey (h.2 key List.mem_cons_self)⟩
    | none =>
      have hkey := lookup_eq_none_iff_not_mem.mp htaken
      -- The rest must avoid both what was taken before and the key that is taken now.
      simp only [ih, List.map_cons, List.nodup_cons, List.mem_cons, forall_eq_or_imp, not_or]
      constructor
      · intro ⟨hnodup, hrest⟩
        exact ⟨⟨fun hmem => (hrest key hmem).1 rfl, hnodup⟩, hkey, fun k hk => (hrest k hk).2⟩
      · intro ⟨⟨hnew, hnodup⟩, _, hrest⟩
        exact ⟨hnodup, fun k hk => ⟨fun heq => hnew (heq ▸ hk), hrest k hk⟩⟩

theorem firstRepeat?_eq_none_iff {names : List String} :
    firstRepeat? names = none ↔ names.Nodup := by
  simp [firstRepeat?, firstClash?_eq_none_iff, Function.comp_def]

/-- All records of a list pass the check exactly if each of them does, and the result is the list
itself. -/
theorem checkAll_eq_ok_iff :
    checkAll records = .ok units ↔ units.map Record.Checked.record = records := by
  induction records generalizing units with
  | nil => cases units <;> simp [checkAll]
  | cons record rest ih =>
    simp only [checkAll, bind_eq_ok_iff, pure_eq_ok_iff, ih, Record.check_eq_ok_iff,
      List.map_eq_cons_iff]
    constructor
    · rintro ⟨unit, hunit, others, hothers, rfl⟩
      exact ⟨unit, others, rfl, hunit, hothers⟩
    · rintro ⟨unit, others, rfl, hunit, hothers⟩
      exact ⟨unit, hunit, others, hothers, rfl⟩

theorem exists_checkAll_iff :
    (∃ units, checkAll records = .ok units) ↔ ∀ record ∈ records, record.fault? = none := by
  simp only [checkAll_eq_ok_iff]
  constructor
  · rintro ⟨units, rfl⟩ record hrecord
    obtain ⟨unit, -, rfl⟩ := List.mem_map.mp hrecord
    exact unit.faultless
  · intro h
    refine ⟨records.pmap Record.Checked.mk h, ?_⟩
    simp [List.map_pmap]

theorem map_fst_ownedOutputs : (ownedOutputs units).map Prod.fst = units.flatMap outputs := by
  simp [ownedOutputs, List.map_flatMap, Function.comp_def]

/-- A schema is accepted with a result exactly if no name repeats, the result is the list of its
records, and nothing that they put into the program repeats. -/
theorem generate_eq_ok_iff :
    generate records = .ok units ↔
      (records.map Record.name).Nodup ∧ checkAll records = .ok units ∧
        (units.flatMap outputs).Nodup := by
  cases hnames : firstRepeat? (records.map Record.name) with
  | some name =>
    -- A repeated name ends generation before any record is looked at.
    have hrepeat : ¬ (records.map Record.name).Nodup := by
      simp [← firstRepeat?_eq_none_iff, hnames]
    simp [generate, hnames, hrepeat]
  | none =>
    have hdistinct := firstRepeat?_eq_none_iff.mp hnames
    cases hcheck : checkAll records with
    | error cause => simp [generate, hnames, hcheck]
    | ok others =>
      have hclash : firstClash? [] (ownedOutputs others) = none ↔
          (others.flatMap outputs).Nodup := by
        simp [firstClash?_eq_none_iff, map_fst_ownedOutputs]
      cases hfirst : firstClash? [] (ownedOutputs others) with
      | some clash =>
        -- Whichever kind of output clashes, it repeats among all of them.
        have hnodup : ¬ (others.flatMap outputs).Nodup := by simp [← hclash, hfirst]
        have hfails : generate records ≠ .ok units := by
          obtain ⟨output, owners⟩ := clash
          cases output <;> simp [generate, hnames, hcheck, hfirst]
        refine ⟨fun h => absurd h hfails, ?_⟩
        intro ⟨_, h, hunits⟩
        cases h
        exact absurd hunits hnodup
      | none =>
        have hsucceeds : generate records = .ok others := by
          simp [generate, hnames, hcheck, hfirst]
        rw [hsucceeds]
        constructor
        · intro h
          cases h
          exact ⟨hdistinct, rfl, hclash.mp hfirst⟩
        · intro ⟨_, h, _⟩
          rw [Except.ok.inj h]

/-- Whether two records cannot be in one program: they share their file or a function. -/
def Clashes (unit other : Record.Checked) : Prop :=
  unit.headerName = other.headerName ∨ ∃ function ∈ unit.names, function ∈ other.names

theorem outputs_eq (unit : Record.Checked) :
    outputs unit = .file unit.headerName :: unit.names.map .function := by
  simp [outputs, Record.Checked.names, Function.comp_def]

@[simp] theorem file_mem_outputs_iff {file : String} :
    .file file ∈ outputs unit ↔ file = unit.headerName := by
  simp [outputs_eq]

@[simp] theorem function_mem_outputs_iff {function : String} :
    .function function ∈ outputs unit ↔ function ∈ unit.names := by
  simp [outputs_eq]

theorem nodup_outputs (unit : Record.Checked) : (outputs unit).Nodup := by
  rw [outputs_eq, List.nodup_cons]
  exact ⟨by simp, unit.nodup_names.map fun _ _ h => Output.function.inj h⟩

/-- Two records clash exactly if there is something that both put into the program. -/
theorem clashes_iff : Clashes unit other ↔ ∃ output ∈ outputs unit, output ∈ outputs other := by
  constructor
  · rintro (hfile | ⟨function, hunit, hother⟩)
    · exact ⟨.file unit.headerName, by simp, by simp [hfile]⟩
    · exact ⟨.function function, by simpa using hunit, by simpa using hother⟩
  · rintro ⟨file | function, hunit, hother⟩
    · exact .inl ((file_mem_outputs_iff.mp hunit).symm.trans (file_mem_outputs_iff.mp hother))
    · exact .inr ⟨function, by simpa using hunit, by simpa using hother⟩

/-- No file and no function has two owners exactly if no two records clash. -/
theorem nodup_outputs_iff_pairwise :
    (units.flatMap outputs).Nodup ↔ units.Pairwise fun unit other => ¬ Clashes unit other := by
  rw [List.nodup_flatMap, and_iff_right fun unit _ => nodup_outputs unit]
  refine List.Pairwise.iff fun unit other => ?_
  rw [clashes_iff]
  simp [Function.onFun, List.disjoint_left]

/-- No file and no function has two owners exactly if the names of any two records differ in more
than case and no function belongs to both. -/
theorem nodup_outputs_iff :
    (units.flatMap outputs).Nodup ↔
      units.Pairwise (fun unit other => ¬ SameButCase unit.record.name other.record.name) ∧
        units.Pairwise fun unit other =>
          ∀ function, unit.record.Generates function → ¬ other.record.Generates function := by
  rw [nodup_outputs_iff_pairwise, ← List.pairwise_and_iff]
  refine List.Pairwise.iff fun unit other => ?_
  simp [Clashes, Record.Checked.headerName_inj, Record.Checked.mem_names_iff]

/-- If nothing that records put into the program repeats, all their functions are named
differently. -/
theorem nodup_names_of_outputs (h : (units.flatMap outputs).Nodup) :
    (units.flatMap Record.Checked.names).Nodup := by
  rw [List.nodup_flatMap]
  refine ⟨fun unit _ => unit.nodup_names, (nodup_outputs_iff.mp h).2.imp fun hpair => ?_⟩
  simpa [Function.onFun, List.disjoint_left, Record.Checked.mem_names_iff] using hpair

/-- A list of records is accepted as a schema exactly if no record has a fault, the names of any two
differ in more than case, and no function name belongs to two of them. The result is then each
record in its place, checked, and all its functions are named differently. Within one record the
functions always are, so only those of different records can be in each other's way. -/
theorem generate_succeeds_iff (records : List Record) :
    ((∃ units, generate records = .ok units) ↔
      (∀ record ∈ records, record.fault? = none) ∧
        records.Pairwise (fun record other => ¬ SameButCase record.name other.name) ∧
        records.Pairwise fun record other =>
          ∀ function, record.Generates function → ¬ other.Generates function) ∧
    (∀ units, generate records = .ok units →
      records.map Record.check = units.map Except.ok ∧
        (units.flatMap fun unit => unit.accessors.map Accessor.name).Nodup) ∧
    ∀ unit : Record.Checked, (unit.accessors.map Accessor.name).Nodup := by
  refine ⟨?_, ?_, Record.Checked.nodup_names⟩
  · constructor
    · intro ⟨units, h⟩
      obtain ⟨-, hcheck, houtputs⟩ := generate_eq_ok_iff.mp h
      rw [nodup_outputs_iff] at houtputs
      refine ⟨exists_checkAll_iff.mp ⟨units, hcheck⟩, ?_⟩
      rw [← checkAll_eq_ok_iff.mp hcheck, List.pairwise_map, List.pairwise_map]
      exact houtputs
    · intro ⟨hfaults, hnames, hfunctions⟩
      obtain ⟨units, hcheck⟩ := exists_checkAll_iff.mpr hfaults
      have hrecords := checkAll_eq_ok_iff.mp hcheck
      have hnodup : (records.map Record.name).Nodup :=
        List.pairwise_map.mpr (hnames.imp fun h heq => h (SameButCase.of_eq heq))
      -- Generation compares what was checked, the conditions speak of the records themselves.
      rw [← hrecords, List.pairwise_map] at hnames hfunctions
      exact ⟨units, generate_eq_ok_iff.mpr
        ⟨hnodup, hcheck, nodup_outputs_iff.mpr ⟨hnames, hfunctions⟩⟩⟩
  · intro units h
    obtain ⟨-, hcheck, houtputs⟩ := generate_eq_ok_iff.mp h
    constructor
    · rw [← checkAll_eq_ok_iff.mp hcheck, List.map_map]
      exact List.map_congr_left fun unit _ => Record.check_eq_ok_iff.mpr rfl
    · exact nodup_names_of_outputs houtputs

/-- The verb in the middle of a name does not say where the record ends, so two records can generate
the same function. -/
example :
    Accessor.functionName "A" .getter "b_get_c" = Accessor.functionName "A_get_b" .getter "c" := by
  decide

end Boilerplate.Schema
