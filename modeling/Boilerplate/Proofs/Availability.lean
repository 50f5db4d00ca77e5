import Boilerplate.Probe
import Mathlib.Data.List.Basic

/-!
# What is known about functions

Reports about functions come in one by one, and a report replaces those that came before it about
the same function. So what counts is the last report about a function, however many reports about
other functions have come in since. A list of reports says the same as its reports one after the
other.

## Main definitions

* `Availability.recordAll` — reports that come in one after the other
* `Availability.LastReport` — the report about a function that no later one replaced

## Main results

* `Availability.LastReport.isAvailable_eq` — a function is as available as its last report says
* `Availability.isAvailable_eq_decide` — without any report, a function is not available
* `Availability.ofList_eq_recordAll`, `Availability.lastReport_ofList_iff` — what a list of reports
  says
-/

namespace Boilerplate.Availability

variable {a : Availability} {function : String} {available : Bool}
  {reports later : List (String × Bool)}

/-- Adds reports one after the other. -/
def recordAll (a : Availability) (reports : List (String × Bool)) : Availability :=
  reports.foldl (fun a report => a.record report.1 report.2) a

/-- The report about a function that no later one replaced: since it was added, only reports about
other functions were. -/
def LastReport (a : Availability) (function : String) (available : Bool) : Prop :=
  ∃ (before : Availability) (later : List (String × Bool)),
    a = (before.record function available).recordAll later ∧
      ∀ report ∈ later, report.1 ≠ function

/-- Reports about other functions do not make a difference. -/
theorem isAvailable_recordAll_of_ne (h : ∀ report ∈ later, report.1 ≠ function) :
    (a.recordAll later).isAvailable function = a.isAvailable function := by
  induction later generalizing a with
  | nil => rfl
  | cons report later ih =>
    obtain ⟨hreport, hlater⟩ := List.forall_mem_cons.mp h
    exact (ih hlater).trans (isAvailable_record_of_ne a report.2 hreport.symm)

/-- A function is available or not as the last report about it says. -/
theorem LastReport.isAvailable_eq (h : a.LastReport function available) :
    a.isAvailable function = available := by
  obtain ⟨before, later, rfl, hlater⟩ := h
  rw [isAvailable_recordAll_of_ne hlater, isAvailable_record_self]

/-- The latest report stands first. -/
theorem recordAll_eq (a : Availability) (later : List (String × Bool)) :
    a.recordAll later = ⟨later.reverse ++ a.reports⟩ := by
  induction later generalizing a with
  | nil => rfl
  | cons report later ih =>
    exact (ih (a.record report.1 report.2)).trans (by simp [record])

/-- A list of reports says what its reports say one after the other. -/
theorem ofList_eq_recordAll (reports : List (String × Bool)) :
    ofList reports = ({} : Availability).recordAll reports := by
  simp [ofList, recordAll_eq]

theorem lookup_reports_eq_some_iff :
    a.reports.lookup function = some available ↔ a.LastReport function available := by
  obtain ⟨reports⟩ := a
  rw [List.lookup_eq_some_iff]
  constructor
  · rintro ⟨later, earlier, hreports, hlater⟩
    refine ⟨⟨earlier⟩, later.reverse, ?_, fun report hreport => ?_⟩
    · rw [recordAll_eq, List.reverse_reverse]
      exact congrArg mk hreports
    · exact (bne_iff_ne.mp (hlater report (List.mem_reverse.mp hreport))).symm
  · rintro ⟨before, later, heq, hlater⟩
    rw [recordAll_eq] at heq
    refine ⟨later.reverse, before.reports, mk.inj heq, fun report hreport => ?_⟩
    exact bne_iff_ne.mpr (hlater report (List.mem_reverse.mp hreport)).symm

instance : Decidable (a.LastReport function available) :=
  decidable_of_iff _ lookup_reports_eq_some_iff

/-- A function is available exactly if the last report about it says so. -/
theorem isAvailable_eq_decide :
    a.isAvailable function = decide (a.LastReport function true) := by
  by_cases h : a.LastReport function true
  · rw [decide_eq_true h, h.isAvailable_eq]
  · rw [decide_eq_false h, isAvailable]
    rw [← lookup_reports_eq_some_iff] at h
    rcases hlookup : a.reports.lookup function with _ | _ | _
    · rfl
    · rfl
    · exact absurd hlookup h

/-- In a list of reports, the last one about a function is the one that no other report about it
follows. -/
theorem lastReport_ofList_iff :
    (ofList reports).LastReport function available ↔
      ∃ earlier later, reports = earlier ++ (function, available) :: later ∧
        ∀ report ∈ later, report.1 ≠ function := by
  constructor
  · rintro ⟨before, later, heq, hlater⟩
    rw [ofList, recordAll_eq, mk.injEq, List.reverse_eq_iff] at heq
    exact ⟨before.reports.reverse, later, by simpa [record] using heq, hlater⟩
  · rintro ⟨earlier, later, rfl, hlater⟩
    refine ⟨ofList earlier, later, ?_, hlater⟩
    rw [ofList_eq_recordAll, ofList_eq_recordAll, recordAll, List.foldl_append]
    rfl

end Boilerplate.Availability
