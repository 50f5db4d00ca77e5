import Boilerplate.Proofs.Place
import Boilerplate.Proofs.Schema
import Mathlib.Data.List.Pairwise

/-!
# What a schema is refused for

Many things can be wrong with a schema at once, and generation reports one of them. The passes
decide which: a name that repeats comes before everything else, then the fault of a single record,
and last what two records would both put into the program. Within a pass it is the first offender in
the order of the schema. What is already taken is remembered with its owner. That is the only owner,
since nothing in front of the offender clashes, and it is another record, since no record clashes
with itself.

## Main definitions

* `Schema.FirstFault` — the fault of a schema that comes before all others
* `Schema.Share` — whether two records of a schema have something in common

## Main results

* `firstClash?_eq_some_iff` — where the first clash in a list of keys is
* `firstClash?_ownedOutputs_iff` — where the first clash between records is
* `generate_blames_first` — a schema is refused for its first fault
-/

namespace Boilerplate.Schema

variable {records : List Record} {units : List Record.Checked} {unit other : Record.Checked}
  {output : Output} {fault : Fault}

/-! ### Keys that are taken -/

section Clash

variable {α β : Type} [BEq α] {taken pairs : List (α × β)} {key : α} {first second : β}

/-- The first clash is at the first pair whose key was taken before the list or stands in it
earlier. -/
theorem firstClash?_taken_eq_some_iff :
    firstClash? taken pairs = some (key, first, second) ↔
      ∃ front back, pairs = front ++ (key, second) :: back ∧ firstClash? taken front = none ∧
        (front.reverse ++ taken).lookup key = some first := by
  induction pairs generalizing taken with
  | nil => simp [firstClash?]
  | cons pair rest ih =>
    obtain ⟨name, owner⟩ := pair
    rw [exists_place_cons_iff]
    cases htaken : taken.lookup name with
    | some earlier =>
      -- The list ends here, so no place behind the first one counts.
      simp only [firstClash?, htaken, Option.some.injEq, Prod.mk.injEq, reduceCtorEq, false_and,
        and_false, exists_false, or_false, List.reverse_nil, List.nil_append, true_and]
      constructor
      · rintro ⟨rfl, rfl, rfl⟩
        exact ⟨⟨rfl, rfl⟩, htaken⟩
      · rintro ⟨⟨rfl, rfl⟩, hlookup⟩
        exact ⟨rfl, Option.some.inj (htaken.symm.trans hlookup), rfl⟩
    | none =>
      simp only [firstClash?, htaken, ih, List.reverse_cons, List.append_assoc,
        List.singleton_append]
      refine (or_iff_right ?_).symm
      rintro ⟨h, -, hlookup⟩
      cases h
      rw [List.reverse_nil, List.nil_append, htaken] at hlookup
      cases hlookup

variable [LawfulBEq α]

/-- The first clash is at the first pair whose key stands in the list earlier. The keys in front of
it differ, so the earlier owner is the only one. -/
theorem firstClash?_eq_some_iff :
    firstClash? [] pairs = some (key, first, second) ↔
      ∃ front back, pairs = front ++ (key, second) :: back ∧ (front.map Prod.fst).Nodup ∧
        (key, first) ∈ front := by
  rw [firstClash?_taken_eq_some_iff]
  refine exists₂_congr fun front back => and_congr_right fun _ => ?_
  rw [firstClash?_eq_none_iff, List.append_nil]
  constructor
  · rintro ⟨⟨hnodup, -⟩, hlookup⟩
    obtain ⟨later, earlier, hfront, -⟩ := List.lookup_eq_some_iff.mp hlookup
    have hmem : (key, first) ∈ front.reverse := hfront ▸ List.mem_append_right _ List.mem_cons_self
    exact ⟨hnodup, List.mem_reverse.mp hmem⟩
  · rintro ⟨hnodup, hmem⟩
    refine ⟨⟨hnodup, by simp⟩, lookup_eq_some_of_mem ?_ (List.mem_reverse.mpr hmem)⟩
    rwa [List.map_reverse, List.nodup_reverse]

theorem firstRepeat?_eq_some_iff {names : List String} {name : String} :
    firstRepeat? names = some name ↔
      ∃ front back, names = front ++ name :: back ∧ front.Nodup ∧ name ∈ front := by
  have hclash : firstRepeat? names = some name ↔
      firstClash? [] (names.map (·, ())) = some (name, (), ()) := by
    rw [firstRepeat?, Option.map_eq_some_iff]
    constructor
    · rintro ⟨clash, h, rfl⟩
      exact h
    · intro h
      exact ⟨_, h, rfl⟩
  rw [hclash, firstClash?_eq_some_iff, exists_place_map_iff]
  simp [Function.comp_def]

end Clash

/-! ### The fault of a single record -/

/-- Checking fails with the fault of the first record that has one. -/
theorem checkAll_eq_error_iff {cause : Record.Fault} :
    checkAll records = .error cause ↔ ∃ record front back, records = front ++ record :: back ∧
      (∀ earlier ∈ front, earlier.fault? = none) ∧ record.fault? = some cause := by
  induction records with
  | nil => simp [checkAll]
  | cons first rest ih =>
    have hgoes : checkAll (first :: rest) = .error cause ↔
        first.fault? = some cause ∨ first.fault? = none ∧ checkAll rest = .error cause := by
      simp only [checkAll, bind_eq_error_iff, pure_ne_error, and_false, exists_false, or_false,
        Record.check_eq_error_iff, exists_and_right, Record.exists_check_iff]
    rw [hgoes, ih, exists_some_place_cons_iff]
    simp [and_assoc, and_left_comm]

/-! ### Clashes between records -/

theorem nodup_of_outputs_eq {before after : List Output}
    (h : outputs unit = before ++ output :: after) : before.Nodup ∧ output ∉ before := by
  have hnodup := nodup_outputs unit
  rw [h, List.nodup_append] at hnodup
  exact ⟨hnodup.1, fun hmem => hnodup.2.2 output hmem output List.mem_cons_self rfl⟩

/-- Nothing that a record puts into the program up to one of its functions belongs to another record
exactly if that one has a file of its own and none of the functions. -/
theorem free_of_outputs_iff {before : List String} :
    (∀ o ∈ Output.file unit.headerName :: before.map .function, o ∉ outputs other) ↔
      other.headerName ≠ unit.headerName ∧ ∀ name ∈ before, name ∉ other.names := by
  rw [List.forall_mem_cons, List.forall_mem_map, file_mem_outputs_iff, ne_comm]
  simp only [function_mem_outputs_iff]

instance : Std.Symm fun unit other => ¬ Clashes unit other where
  symm _ _ h := by
    rw [clashes_iff] at h ⊢
    exact fun ⟨output, hunit, hother⟩ => h ⟨output, hother, hunit⟩

/-- Records that do not clash own what they put into the program. -/
theorem eq_of_mem_outputs (h : units.Pairwise fun unit other => ¬ Clashes unit other)
    (hunit : unit ∈ units) (hother : other ∈ units) (houtput : output ∈ outputs unit)
    (houtput' : output ∈ outputs other) : unit = other := by
  by_contra hne
  exact h.forall hunit hother hne (clashes_iff.mpr ⟨output, houtput, houtput'⟩)

theorem mem_ownedOutputs_iff {owner : String} :
    (output, owner) ∈ ownedOutputs units ↔
      ∃ unit ∈ units, output ∈ outputs unit ∧ unit.record.name = owner := by
  simp [ownedOutputs]

/-- The keys in front of a place differ exactly if the records in front of it do not clash and own
nothing of what its record has put into the program so far. -/
theorem nodup_keys_iff {front : List Record.Checked} {before : List Output} (owner : String)
    (hbefore : before.Nodup) :
    ((ownedOutputs front ++ before.map (·, owner)).map Prod.fst).Nodup ↔
      (front.Pairwise fun unit other => ¬ Clashes unit other) ∧
        ∀ earlier ∈ front, ∀ o ∈ before, o ∉ outputs earlier := by
  have hkeys : (ownedOutputs front ++ before.map (·, owner)).map Prod.fst =
      front.flatMap outputs ++ before := by
    rw [List.map_append, map_fst_ownedOutputs]
    simp [Function.comp_def]
  rw [hkeys, List.nodup_append', nodup_outputs_iff_pairwise, and_iff_right hbefore]
  refine and_congr_right fun _ => ?_
  simp only [List.disjoint_right, List.mem_flatMap, not_exists, not_and]
  exact ⟨fun h earlier hearlier o ho => h ho earlier hearlier,
    fun h o ho earlier hearlier => h earlier hearlier o ho⟩

/-- The first clash of a schema is at the first record that clashes with an earlier one, and there
at the first thing that an earlier record puts into the program as well. -/
theorem firstClash?_ownedOutputs_iff {first second : String} :
    firstClash? [] (ownedOutputs units) = some (output, first, second) ↔
      ∃ unit front back, units = front ++ unit :: back ∧
        (front.Pairwise fun unit other => ¬ Clashes unit other) ∧ unit.record.name = second ∧
        ∃ before after, outputs unit = before ++ output :: after ∧
          (∀ earlier ∈ front, ∀ o ∈ before, o ∉ outputs earlier) ∧
          ∃ owner ∈ front, output ∈ outputs owner ∧ owner.record.name = first := by
  rw [firstClash?_eq_some_iff, ownedOutputs, exists_place_flatMap_iff]
  refine exists₃_congr fun unit front back => and_congr_right fun _ => ?_
  rw [exists_place_map_iff, ← ownedOutputs]
  constructor
  · rintro ⟨o, before, after, houtputs, hpair, hkeys, hmem⟩
    cases hpair
    obtain ⟨hbefore, hnew⟩ := nodup_of_outputs_eq houtputs
    obtain ⟨hfront, hfree⟩ := (nodup_keys_iff _ hbefore).mp hkeys
    refine ⟨hfront, rfl, before, after, houtputs, hfree, ?_⟩
    rcases List.mem_append.mp hmem with howner | hself
    · exact mem_ownedOutputs_iff.mp howner
    · -- A record does not clash with itself.
      obtain ⟨o', ho', hpair⟩ := List.mem_map.mp hself
      cases hpair
      exact absurd ho' hnew
  · rintro ⟨hfront, rfl, before, after, houtputs, hfree, howner⟩
    obtain ⟨hbefore, -⟩ := nodup_of_outputs_eq houtputs
    exact ⟨output, before, after, houtputs, rfl, (nodup_keys_iff _ hbefore).mpr ⟨hfront, hfree⟩,
      List.mem_append_left _ (mem_ownedOutputs_iff.mpr howner)⟩

/-! ### The fault of a schema -/

/-- The fault that a clash is reported as. -/
def clashFault (first second : String) : Output → Fault
  | .file file => .sharedFile first second file
  | .function function => .sharedFunction first second function

/-- Generation fails with the fault of the first pass that fails. -/
theorem generate_eq_error_iff :
    generate records = .error fault ↔
      (∃ name, firstRepeat? (records.map Record.name) = some name ∧
        fault = .repeatedRecord name) ∨
      (records.map Record.name).Nodup ∧
        ((∃ cause, checkAll records = .error cause ∧ fault = .record cause) ∨
          ∃ units, checkAll records = .ok units ∧ ∃ output first second,
            firstClash? [] (ownedOutputs units) = some (output, first, second) ∧
              fault = clashFault first second output) := by
  rw [← firstRepeat?_eq_none_iff]
  cases hnames : firstRepeat? (records.map Record.name) with
  | some name => simp [generate, hnames, eq_comm]
  | none =>
    cases hcheck : checkAll records with
    | error cause => simp [generate, hnames, hcheck, eq_comm]
    | ok units =>
      cases hclash : firstClash? [] (ownedOutputs units) with
      | none => simp [generate, hnames, hcheck, hclash]
      | some clash =>
        obtain ⟨output, first, second⟩ := clash
        cases output <;> simp [generate, hnames, hcheck, hclash, clashFault, eq_comm]

/-- The fault of a schema that comes before all others. -/
inductive FirstFault : List Record → Fault → Prop
  /-- The first record that has the name of an earlier one, whatever else is wrong. -/
  | repeatedRecord {record : Record} {front back : List Record}
    (hfront : (front.map Record.name).Nodup) (hrepeat : record.name ∈ front.map Record.name) :
    FirstFault (front ++ record :: back) (.repeatedRecord record.name)
  /-- The first record with a fault of its own, if no name repeats. -/
  | record {record : Record} {front back : List Record} {cause : Record.Fault}
    (hnames : ((front ++ record :: back).map Record.name).Nodup)
    (hfront : ∀ earlier ∈ front, earlier.fault? = none) (hfault : record.fault? = some cause) :
    FirstFault (front ++ record :: back) (.record cause)
  /-- The first record that clashes with earlier ones, and has the file of one of them. -/
  | sharedFile {first second : Record.Checked} {front back : List Record.Checked}
    (hnames : ((front ++ second :: back).map (·.record.name)).Nodup)
    (hfront : front.Pairwise fun unit other => ¬ Clashes unit other) (hfirst : first ∈ front)
    (hfile : ∀ earlier ∈ front, earlier.headerName = second.headerName ↔ earlier = first) :
    FirstFault ((front ++ second :: back).map (·.record))
      (.sharedFile first.record.name second.record.name second.headerName)
  /-- The first record that clashes with earlier ones, and has the file of none of them: its first
  function that one of them has as well. -/
  | sharedFunction {first second : Record.Checked} {front back : List Record.Checked}
    {function : String} {before after : List String}
    (hnames : ((front ++ second :: back).map (·.record.name)).Nodup)
    (hfront : front.Pairwise fun unit other => ¬ Clashes unit other)
    (hfile : ∀ earlier ∈ front, earlier.headerName ≠ second.headerName)
    (hplace : second.names = before ++ function :: after)
    (hbefore : ∀ earlier ∈ front, ∀ name ∈ before, name ∉ earlier.names) (hfirst : first ∈ front)
    (hfunction : ∀ earlier ∈ front, function ∈ earlier.names ↔ earlier = first) :
    FirstFault ((front ++ second :: back).map (·.record))
      (.sharedFunction first.record.name second.record.name function)

/-- A clash comes down to a fault of the schema, once no name repeats and no record has a fault. -/
theorem firstFault_of_firstClash? {first second : String}
    (hnames : (units.map (·.record.name)).Nodup)
    (h : firstClash? [] (ownedOutputs units) = some (output, first, second)) :
    FirstFault (units.map (·.record)) (clashFault first second output) := by
  obtain ⟨unit, front, back, rfl, hfront, rfl, hplace⟩ := firstClash?_ownedOutputs_iff.mp h
  rw [outputs_eq, exists_place_cons_iff, exists_place_map_iff] at hplace
  have howner {owner : Record.Checked} (hmem : owner ∈ front) (houtput : output ∈ outputs owner) :
      ∀ earlier ∈ front, output ∈ outputs earlier ↔ earlier = owner := fun earlier hearlier =>
    ⟨fun h => eq_of_mem_outputs hfront hearlier hmem h houtput, fun h => h ▸ houtput⟩
  -- The file stands in front of the functions, so it is free if the clash is at a function.
  rcases hplace with ⟨rfl, -, owner, hmem, houtput, rfl⟩ |
    ⟨function, before, after, hplace, rfl, hbefore, owner, hmem, houtput, rfl⟩
  · refine .sharedFile hnames hfront hmem fun earlier hearlier => ?_
    rw [← howner hmem houtput earlier hearlier, file_mem_outputs_iff, eq_comm]
  · refine .sharedFunction hnames hfront (fun earlier hearlier => ?_) hplace
      (fun earlier hearlier => ?_) hmem fun earlier hearlier => ?_
    · exact (free_of_outputs_iff.mp (hbefore earlier hearlier)).1
    · exact (free_of_outputs_iff.mp (hbefore earlier hearlier)).2
    · rw [← howner hmem houtput earlier hearlier, function_mem_outputs_iff]

theorem generate_of_firstClash? {first second : String}
    (hnames : (units.map (·.record.name)).Nodup)
    (h : firstClash? [] (ownedOutputs units) = some (output, first, second)) :
    generate (units.map (·.record)) = .error (clashFault first second output) := by
  refine generate_eq_error_iff.mpr (.inr ⟨?_, .inr ⟨units, checkAll_eq_ok_iff.mpr rfl, ?_⟩⟩)
  · simpa [Function.comp_def] using hnames
  · exact ⟨output, first, second, h, rfl⟩

theorem firstFault_of_generate (h : generate records = .error fault) :
    FirstFault records fault := by
  rcases generate_eq_error_iff.mp h with ⟨name, hrepeat, rfl⟩ | ⟨hnames, hlater⟩
  · obtain ⟨names, others, hnames, hnodup, hmem⟩ := firstRepeat?_eq_some_iff.mp hrepeat
    obtain ⟨front, rest, rfl, rfl, hrest⟩ := List.map_eq_append_iff.mp hnames
    obtain ⟨record, back, rfl, rfl, -⟩ := List.map_eq_cons_iff.mp hrest
    exact .repeatedRecord hnodup hmem
  · rcases hlater with ⟨cause, hcheck, rfl⟩ | ⟨units, hcheck, output, first, second, hclash, rfl⟩
    · obtain ⟨record, front, back, rfl, hfront, hfault⟩ := checkAll_eq_error_iff.mp hcheck
      exact .record hnames hfront hfault
    · obtain rfl := checkAll_eq_ok_iff.mp hcheck
      exact firstFault_of_firstClash? (by simpa [Function.comp_def] using hnames) hclash

theorem generate_of_firstFault (h : FirstFault records fault) :
    generate records = .error fault := by
  cases h with
  | @repeatedRecord record front back hfront hrepeat =>
    refine generate_eq_error_iff.mpr (.inl ⟨record.name, firstRepeat?_eq_some_iff.mpr ?_, rfl⟩)
    exact ⟨front.map Record.name, back.map Record.name, by simp, hfront, hrepeat⟩
  | record hnames hfront hfault =>
    refine generate_eq_error_iff.mpr (.inr ⟨hnames, .inl ⟨_, checkAll_eq_error_iff.mpr ?_, rfl⟩⟩)
    exact ⟨_, _, _, rfl, hfront, hfault⟩
  | @sharedFile first second front back hnames hfront hfirst hfile =>
    have hshared : .file second.headerName ∈ outputs first :=
      file_mem_outputs_iff.mpr ((hfile first hfirst).mpr rfl).symm
    exact generate_of_firstClash? hnames (firstClash?_ownedOutputs_iff.mpr ⟨second, front, back,
      rfl, hfront, rfl, [], _, outputs_eq second, by simp, first, hfirst, hshared, rfl⟩)
  | @sharedFunction first second front back function before after hnames hfront hfile hplace
      hbefore hfirst hfunction =>
    have houtputs : outputs second = (.file second.headerName :: before.map .function) ++
        .function function :: after.map .function := by
      rw [outputs_eq, hplace, List.map_append, List.map_cons, List.cons_append]
    have hfree : ∀ earlier ∈ front,
        ∀ o ∈ Output.file second.headerName :: before.map .function, o ∉ outputs earlier :=
      fun earlier hearlier =>
        free_of_outputs_iff.mpr ⟨hfile earlier hearlier, hbefore earlier hearlier⟩
    have hshared : .function function ∈ outputs first :=
      function_mem_outputs_iff.mpr ((hfunction first hfirst).mpr rfl)
    exact generate_of_firstClash? hnames (firstClash?_ownedOutputs_iff.mpr ⟨second, front, back,
      rfl, hfront, rfl, _, _, houtputs, hfree, first, hfirst, hshared, rfl⟩)

/-- Whether two different records of a schema, the first in front of the second, have something in
common. -/
def Share (records : List Record) (first second : String) (p : Record.Checked → Prop) : Prop :=
  ∃ unit other : Record.Checked, [unit.record, other.record].Sublist records ∧
    unit.record.name = first ∧ other.record.name = second ∧ first ≠ second ∧ p unit ∧ p other

theorem share_of_mem {front back : List Record.Checked} {p : Record.Checked → Prop}
    (hnames : ((front ++ other :: back).map (·.record.name)).Nodup) (hunit : unit ∈ front)
    (hp : p unit) (hp' : p other) :
    Share ((front ++ other :: back).map (·.record)) unit.record.name other.record.name p := by
  have hsublist : [unit, other].Sublist (front ++ other :: back) :=
    (List.singleton_sublist.mpr hunit).append (List.singleton_sublist.mpr List.mem_cons_self)
  have hpair : ([unit, other].map (·.record.name)).Nodup := hnames.sublist (hsublist.map _)
  exact ⟨unit, other, hsublist.map _, rfl, rfl, by simpa using hpair, hp, hp'⟩

/-- A schema is refused exactly for its first fault. A name that repeats comes before everything
else, then the fault of the first record that has one, and last the first record that clashes with
earlier ones, with the one of them that has its file, or else its first function that one of them
has. The two records of a clash differ, stand in this order in the schema, and really have the file
or the function in common. -/
theorem generate_blames_first (records : List Record) :
    (∀ fault, generate records = .error fault ↔ FirstFault records fault) ∧
    (∀ first second file, generate records = .error (.sharedFile first second file) →
      Share records first second fun unit => unit.headerName = file) ∧
    ∀ first second function, generate records = .error (.sharedFunction first second function) →
      Share records first second fun unit => function ∈ unit.names := by
  refine ⟨fun fault => ⟨firstFault_of_generate, generate_of_firstFault⟩, ?_, ?_⟩
  · intro first second file h
    cases firstFault_of_generate h with
    | @sharedFile first second front back hnames _ hfirst hfile =>
      exact share_of_mem hnames hfirst ((hfile first hfirst).mpr rfl) rfl
  · intro first second function h
    cases firstFault_of_generate h with
    | @sharedFunction first second front back function before after hnames _ _ hplace _ hfirst
        hfunction =>
      refine share_of_mem hnames hfirst ((hfunction first hfirst).mpr rfl) ?_
      rw [hplace]
      exact List.mem_append_right before List.mem_cons_self

/-- A name that repeats at the end of a schema comes before the fault of its first record. -/
example : generate [⟨"int", []⟩, ⟨"A", []⟩, ⟨"A", []⟩] = .error (.repeatedRecord "A") := by
  decide

end Boilerplate.Schema
