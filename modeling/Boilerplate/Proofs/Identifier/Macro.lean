import Boilerplate.Proofs.Identifier
import Mathlib

-- The lemmas on the case of ASCII letters are in no part of the library that is imported alone.

/-!
# Names in capitals

A macro is named by writing a name in capitals, with an underscore for every character that cannot
stand in an identifier. The case of letters does not matter for the result, and the result holds no
small letter. So a macro can only be taken for a name that holds no small letter either.

## Main results

* `isPart_toLower` — small letters can stand where capitals can
* `macroChar_toLower` — the case of letters does not matter
* `macroCase_eq_iff` — names that turn into one macro
* `isLower_eq_false_of_mem_macroCase` — a macro holds no small letter
* `isPart_of_mem_macroCase` — the characters of a macro
* `spellingFault?_macroCase` — the macro of a name that is spelled as an identifier
-/

namespace Boilerplate.Identifier

variable {name other : String} {c : Char}

/-- Capitals and small letters are letters alike. -/
@[simp] theorem isAlphanum_toLower (c : Char) : c.toLower.isAlphanum = c.isAlphanum := by
  by_cases h : c.isUpper
  · have halpha : c.toLower.isAlpha = true := by simp [Char.isAlpha, h]
    simp [Char.isAlphanum, Char.isAlpha, h] at halpha ⊢
  · rw [Char.toLower_eq_of_not_isUpper h]

theorem isPart_toLower (h : isPart c = true) : isPart c.toLower = true := by
  rcases Bool.or_eq_true_iff.mp h with hletter | hunderscore
  · simp [isPart, hletter]
  · rw [beq_iff_eq.mp hunderscore]
    decide

/-- A capital and its small letter turn into the same character of a macro. -/
@[simp] theorem macroChar_toLower (c : Char) : macroChar c.toLower = macroChar c := by
  simp [macroChar]

@[simp] theorem isLower_macroChar (c : Char) : (macroChar c).isLower = false := by
  by_cases h : c.isAlphanum = true
  · simp [macroChar, h]
  · have hunderscore : macroChar c = '_' := by simp [macroChar, h]
    rw [hunderscore]
    decide

/-- Every character of a macro can stand in an identifier. -/
@[simp] theorem isPart_macroChar (c : Char) : isPart (macroChar c) = true := by
  by_cases h : c.isAlphanum = true
  · have hupper : c.toUpper.isAlphanum = true := by
      by_cases hlower : c.isLower
      · simp [Char.isAlphanum, Char.isAlpha, hlower]
      · rwa [Char.toUpper_eq_of_not_isLower hlower]
    simp [macroChar, isPart, h, hupper]
  · simp [macroChar, isPart, h]

/-- What can stand in an identifier is changed by a macro at most in case. -/
theorem toLower_macroChar (h : isPart c = true) : (macroChar c).toLower = c.toLower := by
  rcases Bool.or_eq_true_iff.mp h with hletter | hunderscore
  · rw [macroChar, if_pos hletter, Char.toLower_toUpper_eq_toLower]
  · rw [beq_iff_eq.mp hunderscore]
    rfl

/-- A macro starts like an identifier if the name does. -/
theorem isStart_macroChar (h : isStart c = true) : isStart (macroChar c) = true := by
  rcases Bool.or_eq_true_iff.mp h with hletter | hunderscore
  · have hupper : c.toUpper.isAlpha = true := by
      by_cases hlower : c.isLower
      · simp [Char.isAlpha, hlower]
      · rwa [Char.toUpper_eq_of_not_isLower hlower]
    simp [macroChar, isStart, Char.isAlphanum, hletter, hupper]
  · rw [beq_iff_eq.mp hunderscore]
    rfl

theorem macroCase_append (name other : String) :
    macroCase (name ++ other) = macroCase name ++ macroCase other := by
  simp [← String.toList_inj]

/-- Names turn into one macro exactly if they differ at most in case. Elsewhere this fails, since
everything that cannot stand in an identifier turns into an underscore. -/
theorem macroCase_eq_iff (hname : spellingFault? name = none)
    (hother : spellingFault? other = none) :
    macroCase name = macroCase other ↔ SameButCase name other := by
  rw [← String.toList_inj, toList_macroCase, toList_macroCase, SameButCase]
  constructor
  · intro h
    -- Small letters are found from the macro, since it changed nothing but the case.
    have hback {text : String} (htext : spellingFault? text = none) :
        (text.toList.map macroChar).map Char.toLower = text.toList.map Char.toLower := by
      rw [List.map_map]
      exact List.map_congr_left fun d hd => toLower_macroChar (isPart_of_mem_of_spelled htext hd)
    rw [← hback hname, h, hback hother]
  · intro h
    have hforth (text : String) :
        (text.toList.map Char.toLower).map macroChar = text.toList.map macroChar := by
      rw [List.map_map]
      exact List.map_congr_left fun d _ => macroChar_toLower d
    rw [← hforth name, h, hforth other]

theorem isLower_eq_false_of_mem_macroCase (h : c ∈ (macroCase name).toList) :
    c.isLower = false := by
  rw [toList_macroCase] at h
  obtain ⟨d, -, rfl⟩ := List.mem_map.mp h
  exact isLower_macroChar d

theorem isPart_of_mem_macroCase (h : c ∈ (macroCase name).toList) : isPart c = true := by
  rw [toList_macroCase] at h
  obtain ⟨d, -, rfl⟩ := List.mem_map.mp h
  exact isPart_macroChar d

/-- The macro of a name that is spelled as an identifier is spelled like that as well. -/
theorem spellingFault?_macroCase (h : spellingFault? name = none) :
    spellingFault? (macroCase name) = none := by
  obtain ⟨d, rest, hname, hd, -⟩ := spellingFault?_eq_none_iff.mp h
  refine spellingFault?_eq_none_iff.mpr
    ⟨macroChar d, rest.map macroChar, ?_, isStart_macroChar hd, ?_⟩
  · rw [toList_macroCase, hname, List.map_cons]
  · intro e he
    obtain ⟨f, -, rfl⟩ := List.mem_map.mp he
    exact isPart_macroChar f

end Boilerplate.Identifier
