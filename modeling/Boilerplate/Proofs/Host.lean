import Boilerplate.Host
import Boilerplate.Proofs.Joined

/-!
# How a host splits into parts

The name of a host is cut at its dashes, but not at all of them: the vendor may be left out, and
what is left behind the operating system stays in one piece. This module states the ways in which a
name can be put together from parts as rules, one for each shape of a name, and derives from them
what the parts have to do with the name and with its segments.

## Main definitions

* `Triple.parts` — the parts that a triple has, in the order of a name
* `Host.segments` — what stands between the dashes of a name
* `Host.Splits` — the shapes of names, with the parts of each

## Main results

* `splits_split` — the parts of a name are those of its shape
* `Splits.intercalate_parts` — the parts make up the name
* `Splits.isSome_vendor_iff` — which names have a vendor
* `Splits.os_mem_segments` — the operating system is a whole segment
* `triple_parts_lossless` — what the parts of a host say about its name
-/

namespace Boilerplate

/-- The parts that a triple has, in the order in which they stand in a name. -/
def Triple.parts (t : Triple) : List String :=
  t.cpu :: (t.vendor.toList ++ t.os.toList ++ t.environment.toList)

namespace Host

variable {cs front : List Char} {t : Triple}

/-- The segments of a name, which stand between its dashes. -/
def segments (cs : List Char) : List (List Char) := cs.splitOn '-'

theorem startsWithSystem_eq_false_iff {part : List Char} :
    startsWithSystem part = false ↔ ∀ system ∈ vendorlessSystems, ¬ system.toList <+: part := by
  simp [startsWithSystem, ← List.isPrefixOf_iff_prefix]

/-- The shapes of names, with the parts that each of them has. After a processor comes an operating
system or a vendor; the environment takes all that is left, dashes included. -/
inductive Splits : List Char → Triple → Prop
  | processor {cpu : List Char} (hcpu : '-' ∉ cpu) :
    Splits cpu ⟨String.ofList cpu, none, none, none⟩
  | system {cpu os : List Char} (hcpu : '-' ∉ cpu) (hos : '-' ∉ os) :
    Splits (cpu ++ '-' :: os) ⟨String.ofList cpu, none, some (String.ofList os), none⟩
  | vendorless {cpu os rest : List Char} (hcpu : '-' ∉ cpu) (hos : '-' ∉ os)
      (hsystem : startsWithSystem os = true) :
    Splits (cpu ++ '-' :: (os ++ '-' :: rest))
      ⟨String.ofList cpu, none, some (String.ofList os), some (String.ofList rest)⟩
  | vendor {cpu vendor os : List Char} (hcpu : '-' ∉ cpu) (hvendor : '-' ∉ vendor)
      (hsystem : startsWithSystem vendor = false) (hos : '-' ∉ os) :
    Splits (cpu ++ '-' :: (vendor ++ '-' :: os))
      ⟨String.ofList cpu, some (String.ofList vendor), some (String.ofList os), none⟩
  | environment {cpu vendor os rest : List Char} (hcpu : '-' ∉ cpu) (hvendor : '-' ∉ vendor)
      (hsystem : startsWithSystem vendor = false) (hos : '-' ∉ os) :
    Splits (cpu ++ '-' :: (vendor ++ '-' :: (os ++ '-' :: rest)))
      ⟨String.ofList cpu, some (String.ofList vendor), some (String.ofList os),
        some (String.ofList rest)⟩

/-! ### Splitting a name -/

theorem splitDash_of_not_mem (h : '-' ∉ cs) : splitDash cs = (cs, none) := by
  induction cs with
  | nil => rfl
  | cons c cs ih =>
    rw [List.mem_cons, not_or] at h
    rw [splitDash, if_neg (Ne.symm h.1), ih h.2]

theorem splitDash_append_cons (h : '-' ∉ front) (rest : List Char) :
    splitDash (front ++ '-' :: rest) = (front, some rest) := by
  induction front with
  | nil => rfl
  | cons c front ih =>
    rw [List.mem_cons, not_or] at h
    rw [List.cons_append, splitDash, if_neg (Ne.symm h.1), ih h.2]

/-- The parts of a name are those of its shape. -/
theorem splits_split (cs : List Char) : Splits cs (split cs) := by
  -- The name is cut at its first three dashes, as far as it has them.
  cases cs using cut_induction '-' with
  | uncut cpu hcpu =>
    rw [split, splitDash_of_not_mem hcpu]
    exact .processor hcpu
  | cut cpu rest hcpu =>
    cases rest using cut_induction '-' with
    | uncut os hos =>
      simp only [split, splitDash_append_cons hcpu, splitDash_of_not_mem hos]
      exact .system hcpu hos
    | cut second rest hsecond =>
      simp only [split, splitDash_append_cons hcpu, splitDash_append_cons hsecond]
      cases hsystem : startsWithSystem second with
      | true => exact .vendorless hcpu hsecond hsystem
      | false =>
        cases rest using cut_induction '-' with
        | uncut os hos =>
          rw [splitDash_of_not_mem hos]
          exact .vendor hcpu hsecond hsystem hos
        | cut os rest hos =>
          rw [splitDash_append_cons hos]
          exact .environment hcpu hsecond hsystem hos

/-! ### What the parts say -/

/-- The parts of a name make up the name. -/
theorem Splits.intercalate_parts (h : Splits cs t) :
    "-".intercalate t.parts = String.ofList cs := by
  cases h <;> simp [← String.toList_inj, Triple.parts]

theorem Splits.not_mem_cpu (h : Splits cs t) : '-' ∉ t.cpu.toList := by
  cases h <;> simpa

theorem Splits.not_mem_vendor (h : Splits cs t) : ∀ vendor ∈ t.vendor, '-' ∉ vendor.toList := by
  cases h <;> simp [*]

theorem Splits.not_mem_os (h : Splits cs t) : ∀ os ∈ t.os, '-' ∉ os.toList := by
  cases h <;> simp [*]

/-- A name has an operating system exactly if it has a dash. -/
theorem Splits.os_eq_none_iff (h : Splits cs t) : t.os = none ↔ '-' ∉ cs := by
  cases h <;> simp [*]

/-- A vendor and an environment come with an operating system. -/
theorem Splits.isSome_os (h : Splits cs t) (hpart : t.environment.isSome ∨ t.vendor.isSome) :
    t.os.isSome := by
  cases h <;> simp_all

theorem segments_append_cons (h : '-' ∉ front) (rest : List Char) :
    segments (front ++ '-' :: rest) = front :: segments rest :=
  List.splitOn_append_cons_self_of_not_mem h rest

theorem segments_of_not_mem (h : '-' ∉ cs) : segments cs = [cs] := List.splitOn_eq_singleton h

theorem one_le_length_segments (cs : List Char) : 1 ≤ (segments cs).length :=
  List.length_pos_iff.mpr (List.splitOn_ne_nil '-' cs)

/-- A name has a vendor exactly if it has three segments or more and the second of them starts with
none of the operating systems that may follow the processor. -/
theorem Splits.isSome_vendor_iff (h : Splits cs t) :
    t.vendor.isSome ↔ 3 ≤ (segments cs).length ∧
      ∀ second ∈ (segments cs)[1]?, ∀ system ∈ vendorlessSystems, ¬ system.toList <+: second := by
  simp only [← startsWithSystem_eq_false_iff]
  cases h with
  | processor hcpu => simp [segments_of_not_mem hcpu]
  | system hcpu hos => simp [segments_append_cons hcpu, segments_of_not_mem hos]
  | vendorless hcpu hos hsystem =>
    simp [segments_append_cons hcpu, segments_append_cons hos, hsystem]
  | vendor hcpu hvendor hsystem =>
    simp [segments_append_cons hcpu, segments_append_cons hvendor, hsystem, one_le_length_segments]
  | environment hcpu hvendor hsystem =>
    simp [segments_append_cons hcpu, segments_append_cons hvendor, hsystem, one_le_length_segments]

/-- The operating system of a name is one of its segments, and not the first one. -/
theorem Splits.os_mem_segments (h : Splits cs t) :
    ∀ os ∈ t.os, os.toList ∈ (segments cs).tail := by
  cases h with
  | processor hcpu => simp
  | system hcpu hos => simp [segments_append_cons hcpu, segments_of_not_mem hos]
  | vendorless hcpu hos => simp [segments_append_cons hcpu, segments_append_cons hos]
  | vendor hcpu hvendor _ hos =>
    simp [segments_append_cons hcpu, segments_append_cons hvendor, segments_of_not_mem hos]
  | environment hcpu hvendor _ hos =>
    simp [segments_append_cons hcpu, segments_append_cons hvendor, segments_append_cons hos]

/-- The parts of a host make up its name again when they are joined by dashes, and only the
environment holds dashes of its own. A name without dashes is a processor and nothing else; every
other name has an operating system, and no vendor or environment stands without one. There is a
vendor exactly in names of three segments or more whose second segment starts with none of the
operating systems that may follow the processor. -/
theorem triple_parts_lossless (host : Host) :
    "-".intercalate host.triple.parts = host.text ∧
      ('-' ∉ host.triple.cpu.toList ∧ (∀ vendor ∈ host.triple.vendor, '-' ∉ vendor.toList) ∧
        ∀ os ∈ host.triple.os, '-' ∉ os.toList) ∧
      (host.triple.os = none ↔ '-' ∉ host.text.toList) ∧
      (host.triple.environment.isSome ∨ host.triple.vendor.isSome → host.triple.os.isSome) ∧
      (host.triple.vendor.isSome ↔ 3 ≤ (segments host.text.toList).length ∧
        ∀ second ∈ (segments host.text.toList)[1]?,
          ∀ system ∈ vendorlessSystems, ¬ system.toList <+: second) := by
  have h : Splits host.text.toList host.triple := splits_split host.text.toList
  refine ⟨?_, ⟨h.not_mem_cpu, h.not_mem_vendor, h.not_mem_os⟩, h.os_eq_none_iff, h.isSome_os,
    h.isSome_vendor_iff⟩
  rw [h.intercalate_parts, String.ofList_toList]

/-- Empty segments are parts too, and an environment keeps its dashes. -/
example : split "-linux--gnu-".toList = ⟨"", none, some "linux", some "-gnu-"⟩ := by decide

end Host

end Boilerplate
