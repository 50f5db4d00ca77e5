import Boilerplate.Identifier

/-!
# The characters of identifiers

What the checks of a name say about its characters: a name without faults starts with a letter or
an underscore and holds nothing but letters, digits and underscores. So no blank, and none of the
signs that generated texts put between names, can stand in it.

Names may be told apart by case alone, which is not enough for the files that they turn into.

## Main definitions

* `SameButCase` — whether two names differ at most in the case of letters of ASCII

## Main results

* `spellingFault?_eq_none_iff` — which names are spelled as identifiers
* `isPart_of_mem` — the characters of a name without faults
* `fault?_of_not_mem` — names that are no keywords and no standard names
-/

namespace Boilerplate.Identifier

variable {name rest : String} {c : Char}

theorem isPart_of_isStart (h : isStart c = true) : isPart c = true := by
  simp only [isStart, isPart, Char.isAlphanum, Bool.or_eq_true] at h ⊢
  exact h.imp_left Or.inl

/-- A name is spelled as an identifier exactly if it starts like one and goes on like one. -/
theorem spellingFault?_eq_none_iff :
    spellingFault? name = none ↔
      ∃ c rest, name.toList = c :: rest ∧ isStart c = true ∧ ∀ d ∈ rest, isPart d = true := by
  unfold spellingFault?
  cases name.toList with
  | nil => simp
  | cons c rest =>
    by_cases h : isStart c = true
    · simp [h, and_assoc]
    · simp [h]

theorem spellingFault?_of_fault? (h : fault? name = none) : spellingFault? name = none := by
  simp only [fault?, Option.orElse_eq_orElse, Option.orElse_eq_or, Option.or_eq_none_iff] at h
  exact h.1

/-- All characters of a name that is spelled as an identifier are letters, digits or underscores.
-/
theorem isPart_of_mem_of_spelled (h : spellingFault? name = none) (hc : c ∈ name.toList) :
    isPart c = true := by
  obtain ⟨d, rest, hname, hd, hrest⟩ := spellingFault?_eq_none_iff.mp h
  rw [hname] at hc
  rcases List.mem_cons.mp hc with rfl | hc
  · exact isPart_of_isStart hd
  · exact hrest c hc

/-- All characters of a name without faults are letters, digits or underscores. -/
theorem isPart_of_mem (h : fault? name = none) (hc : c ∈ name.toList) : isPart c = true :=
  isPart_of_mem_of_spelled (spellingFault?_of_fault? h) hc

/-- A character that is no part of identifiers does not stand in a name without faults. -/
theorem not_mem_of_not_isPart (h : fault? name = none) (hc : isPart c = false) :
    c ∉ name.toList := by
  intro hmem
  rw [isPart_of_mem h hmem] at hc
  exact Bool.noConfusion hc

/-- No character of an identifier is a blank. -/
theorem isWhitespace_eq_false_of_isPart (h : isPart c = true) : c.isWhitespace = false := by
  rw [Bool.eq_false_iff]
  intro hblank
  simp only [Char.isWhitespace, Bool.or_eq_true, decide_eq_true_eq] at hblank
  rcases hblank with ((rfl | rfl) | rfl) | rfl <;> exact absurd h (by decide)

theorem ne_empty_of_fault? (h : fault? name = none) : name ≠ "" := by
  rintro rfl
  obtain ⟨c, rest, hname, -⟩ := spellingFault?_eq_none_iff.mp (spellingFault?_of_fault? h)
  simp at hname

/-- Only names of the implementation are refused once keywords and standard names are excluded. -/
theorem fault?_of_not_mem (hspelling : spellingFault? name = none) (hword : name ∉ reservedWords)
    (hstandard : name ∉ standardNames) :
    fault? name = if isImplementationName name then some .reservedForImplementation else none := by
  rw [fault?, hspelling, if_neg hword, if_neg hstandard]
  rfl

/-- A name may go on with any letters, digits and underscores. -/
theorem spellingFault?_append (h : spellingFault? name = none)
    (hrest : ∀ c ∈ rest.toList, isPart c = true) : spellingFault? (name ++ rest) = none := by
  obtain ⟨c, cs, hname, hc, hcs⟩ := spellingFault?_eq_none_iff.mp h
  refine spellingFault?_eq_none_iff.mpr ⟨c, cs ++ rest.toList, ?_, hc, ?_⟩
  · rw [String.toList_append, hname, List.cons_append]
  · intro d hd
    exact (List.mem_append.mp hd).elim (hcs d) (hrest d)

/-- Two names that differ at most in the case of letters of ASCII. -/
def SameButCase (name other : String) : Prop :=
  name.toList.map Char.toLower = other.toList.map Char.toLower

instance (name other : String) : Decidable (SameButCase name other) :=
  inferInstanceAs (Decidable (_ = _))

namespace SameButCase

variable {name other third : String}

theorem of_eq (h : name = other) : SameButCase name other :=
  congrArg (List.map Char.toLower ∘ String.toList) h

theorem symm (h : SameButCase name other) : SameButCase other name := Eq.symm h

theorem trans (h : SameButCase name other) (h' : SameButCase other third) :
    SameButCase name third := Eq.trans h h'

/-- Names that differ at most in case end in the same letter. -/
theorem getLast?_eq (h : SameButCase name other) :
    name.toList.getLast?.map Char.toLower = other.toList.getLast?.map Char.toLower := by
  rw [← List.getLast?_map, h, List.getLast?_map]

end SameButCase

/-- Names that end alike differ as much as what stands before. -/
theorem sameButCase_append_right_iff {name other ending : String} :
    SameButCase (name ++ ending) (other ++ ending) ↔ SameButCase name other := by
  simp [SameButCase]

end Boilerplate.Identifier
