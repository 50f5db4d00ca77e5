import Boilerplate.Host.Pattern
import Mathlib.Data.List.Infix

/-!
# Patterns as globs

A pattern is taken apart once and then matched by comparing its literal text with the start, the
end or any place of a host. This module relates that to the text of the pattern itself, read as a
glob: a star in it stands for any characters, and every other character for itself.

## Main definitions

* `Pattern.IsGlob` — the texts that are patterns
* `Pattern.IsReadable` — the patterns that texts are read as
* `Pattern.Glob` — whether a glob matches the whole of a text, by recursion on the glob

## Main results

* `toList_eq_of_parse` — a pattern that was read is written as the text it was read from
* `exists_parse_iff` — the texts that are read as patterns
* `parse_text_iff` — the patterns that are read back from what is written for them
* `parse_globs_lossless` — reading takes the texts in the grammar and loses nothing of them
* `accepts_iff_glob` — a pattern matches what is written for it matches as a glob
* `accepts_iff_glob_of_parse` — so a text that is read as a pattern is matched like a glob
-/

namespace Boilerplate.Pattern

variable {text input : String} {p : Pattern} {literal rest cs : List Char} {present : Bool}

/-- The texts that are patterns: literal text with at most one star at each end, not empty as a
whole. -/
def IsGlob (text : String) : Prop :=
  text ≠ "" ∧ ∃ leading literal trailing,
    text.toList = star leading ++ literal ++ star trailing ∧
      ∀ c ∈ literal, c ∉ ['*', '?', '[', ']']

/-- Whether a glob matches the whole of a text. A star stands for any run of characters, and every
other character for itself. -/
def Glob : List Char → List Char → Prop
  | [], cs => cs = []
  | p :: ps, cs =>
    if p = '*' then ∃ run rest, cs = run ++ rest ∧ Glob ps rest
    else ∃ rest, cs = p :: rest ∧ Glob ps rest

@[simp] theorem glob_nil : Glob [] cs ↔ cs = [] := Iff.rfl

theorem glob_star_cons {ps : List Char} :
    Glob ('*' :: ps) cs ↔ ∃ run rest, cs = run ++ rest ∧ Glob ps rest := by
  rw [Glob, if_pos rfl]

theorem glob_cons_of_ne {c : Char} {ps : List Char} (h : c ≠ '*') :
    Glob (c :: ps) cs ↔ ∃ rest, cs = c :: rest ∧ Glob ps rest := by
  rw [Glob, if_neg h]

/-- What a star stands for ends where the rest of the text starts, so only that rest has to be
searched for. -/
theorem glob_star_cons_iff_suffix {ps : List Char} :
    Glob ('*' :: ps) cs ↔ ∃ rest ∈ cs.tails, Glob ps rest := by
  rw [glob_star_cons]
  constructor
  · rintro ⟨run, rest, rfl, h⟩
    exact ⟨rest, (List.mem_tails _ _).mpr (List.suffix_append run rest), h⟩
  · intro ⟨rest, hrest, h⟩
    obtain ⟨run, rfl⟩ := (List.mem_tails _ _).mp hrest
    exact ⟨run, rest, rfl, h⟩

instance decidableGlob : (ps cs : List Char) → Decidable (Glob ps cs)
  | [], cs => inferInstanceAs (Decidable (cs = []))
  | p :: ps, cs =>
    have := decidableGlob ps
    if h : p = '*' then
      decidable_of_iff (∃ rest ∈ cs.tails, Glob ps rest) (by rw [h, glob_star_cons_iff_suffix])
    else
      match cs with
      | [] => isFalse (by simp [glob_cons_of_ne h])
      | c :: rest =>
        decidable_of_iff (c = p ∧ Glob ps rest) (by simp [glob_cons_of_ne h, and_assoc])

theorem isSpecial_eq_false_iff {c : Char} : isSpecial c = false ↔ c ∉ ['*', '?', '[', ']'] := by
  simp [isSpecial, and_assoc]

theorem star_not_mem (h : ∀ c ∈ literal, isSpecial c = false) : '*' ∉ literal :=
  fun hmem => absurd (h _ hmem) (by decide)

/-! ### Reading and writing -/

theorem star_append_takeLeading (cs : List Char) :
    star (takeLeading cs).1 ++ (takeLeading cs).2 = cs := by
  unfold takeLeading
  split <;> rfl

theorem takeTrailing_append_star (cs : List Char) :
    (takeTrailing cs).2 ++ star (takeTrailing cs).1 = cs := by
  unfold takeTrailing
  split_ifs with h
  · exact List.dropLast_append_getLast? '*' h
  · exact List.append_nil cs

/-- A star is taken off the end of literal text exactly if one was put there. -/
theorem takeTrailing_literal (h : '*' ∉ literal) :
    takeTrailing (literal ++ star present) = (present, literal) := by
  cases present with
  | true => simp [takeTrailing, star]
  | false =>
    have hlast : literal.getLast? ≠ some '*' := fun hl => h (List.mem_of_getLast? hl)
    simp [takeTrailing, star, hlast]

/-- The pattern that is left when the stars at the ends of a text are taken off. -/
def takenApart (cs : List Char) : Pattern :=
  ⟨(takeLeading cs).1, (takeTrailing (takeLeading cs).2).2, (takeTrailing (takeLeading cs).2).1⟩

theorem star_append_takenApart (cs : List Char) :
    star (takenApart cs).leading ++ (takenApart cs).literal ++ star (takenApart cs).trailing =
      cs := by
  rw [List.append_assoc, takenApart, takeTrailing_append_star, star_append_takeLeading]

/-- A text is read by taking off the stars at its ends; nothing special may be left. -/
theorem parse_eq_ok_iff :
    parse text = .ok p ↔
      text ≠ "" ∧ takenApart text.toList = p ∧ ∀ c ∈ p.literal, isSpecial c = false := by
  have hparse : parse text = if text.toList = [] then .error .empty
      else if (takenApart text.toList).literal.any isSpecial then .error .unsupported
      else .ok (takenApart text.toList) := rfl
  simp only [hparse, String.toList_eq_nil_iff]
  by_cases hempty : text = ""
  · simp [hempty]
  · cases hspecial : (takenApart text.toList).literal.any isSpecial with
    | true =>
      simp only [hempty, if_false, if_true, reduceCtorEq, false_iff, not_and]
      rintro - rfl h
      obtain ⟨c, hc, hspecial⟩ := List.any_eq_true.mp hspecial
      rw [h c hc] at hspecial
      exact Bool.noConfusion hspecial
    | false =>
      have hfree : ∀ c ∈ (takenApart text.toList).literal, isSpecial c = false := by
        simpa using hspecial
      simp only [hempty, if_false, Bool.false_eq_true, Except.ok.injEq, ne_eq, not_false_eq_true,
        true_and]
      exact ⟨fun h => ⟨h, h ▸ hfree⟩, fun h => h.1⟩

/-- A pattern that was read is written as the text that it was read from. -/
theorem toList_eq_of_parse (h : parse text = .ok p) :
    text.toList = star p.leading ++ p.literal ++ star p.trailing := by
  rw [← (parse_eq_ok_iff.mp h).2.1, star_append_takenApart]

theorem not_isSpecial_of_parse (h : parse text = .ok p) : ∀ c ∈ p.literal, isSpecial c = false :=
  (parse_eq_ok_iff.mp h).2.2

/-- The patterns that texts are read as: nothing in the literal is special, and something is written
for the pattern. A star without any literal could be put at either end, and it is put in front. -/
structure IsReadable (p : Pattern) : Prop where
  literal_plain : ∀ c ∈ p.literal, isSpecial c = false
  ne_empty : p ≠ ⟨false, [], false⟩
  ne_loneTrailing : p ≠ ⟨false, [], true⟩

theorem takeLeading_text (hstar : '*' ∉ p.literal) (hlone : p ≠ ⟨false, [], true⟩) :
    takeLeading (star p.leading ++ p.literal ++ star p.trailing) =
      (p.leading, p.literal ++ star p.trailing) := by
  obtain ⟨_ | _, literal, trailing⟩ := p
  case true => rfl
  case false =>
    -- Without a star in front, the first character is literal unless the literal is empty.
    cases literal with
    | nil =>
      cases trailing with
      | true => exact absurd rfl hlone
      | false => rfl
    | cons c literal =>
      have hc : c ≠ '*' := (List.ne_of_not_mem_cons hstar).symm
      simp only [star, Bool.false_eq_true, if_false, List.nil_append, List.cons_append]
      unfold takeLeading
      split
      · rename_i heq
        exact absurd (List.cons.inj heq).1 hc
      · rfl

/-- The stars that are written for a pattern are taken off again, each of them at its own end,
unless a star at the end is all that is written. -/
theorem takenApart_text (hstar : '*' ∉ p.literal) (hlone : p ≠ ⟨false, [], true⟩) :
    takenApart (star p.leading ++ p.literal ++ star p.trailing) = p := by
  rw [takenApart, takeLeading_text hstar hlone, takeTrailing_literal hstar]

/-- Of a text in the grammar, nothing but literal text is left between the stars. A lone star counts
as one that leads, which is why only the literal is found again. -/
theorem not_isSpecial_takenApart {leading : Bool} (h : ∀ c ∈ literal, isSpecial c = false) :
    ∀ c ∈ (takenApart (star leading ++ literal ++ star present)).literal, isSpecial c = false := by
  by_cases hlone : (⟨leading, literal, present⟩ : Pattern) = ⟨false, [], true⟩
  · obtain ⟨rfl, rfl, rfl⟩ := Pattern.mk.inj hlone
    intro c hc
    cases hc
  · have happart := takenApart_text (p := ⟨leading, literal, present⟩) (star_not_mem h) hlone
    rw [happart]
    exact h

/-- Exactly the texts in the grammar are read as patterns. -/
theorem exists_parse_iff : (∃ p, parse text = .ok p) ↔ IsGlob text := by
  constructor
  · intro ⟨p, h⟩
    refine ⟨(parse_eq_ok_iff.mp h).1, p.leading, p.literal, p.trailing, toList_eq_of_parse h, ?_⟩
    exact fun c hc => isSpecial_eq_false_iff.mp (not_isSpecial_of_parse h c hc)
  · intro ⟨hne, leading, literal, trailing, htext, hliteral⟩
    refine ⟨_, parse_eq_ok_iff.mpr ⟨hne, rfl, ?_⟩⟩
    rw [htext]
    exact not_isSpecial_takenApart fun c hc => isSpecial_eq_false_iff.mpr (hliteral c hc)

/-- A pattern that was read is written as the text that it was read from. -/
theorem text_of_parse (h : parse text = .ok p) : p.text = text := by
  rw [Pattern.text, ← toList_eq_of_parse h, String.ofList_toList]

/-- The patterns that are read back from what is written for them. -/
theorem parse_text_iff : parse p.text = .ok p ↔ p.IsReadable := by
  have hchars : p.text.toList = star p.leading ++ p.literal ++ star p.trailing :=
    String.toList_ofList
  constructor
  · intro h
    refine ⟨not_isSpecial_of_parse h, ?_, ?_⟩
    · rintro rfl
      exact absurd h (by decide)
    · rintro rfl
      exact absurd h (by decide)
  · intro ⟨hplain, hempty, hlone⟩
    refine parse_eq_ok_iff.mpr ⟨fun htext => ?_, ?_, hplain⟩
    · -- Nothing is written only for the pattern without literal and stars.
      rw [← String.toList_eq_nil_iff, hchars] at htext
      obtain ⟨leading, literal, trailing⟩ := p
      cases leading <;> cases trailing <;> simp_all [star]
    · rw [hchars, takenApart_text (star_not_mem hplain) hlone]

/-- Exactly the texts in the grammar are read as patterns, and nothing of a text is lost: what is
written for the pattern is the text again, so different texts are read as different patterns. Where
a text is in the grammar in two ways, as a lone star is, the pattern is the one that is readable. -/
theorem parse_globs_lossless :
    (∀ text, (∃ p, parse text = .ok p) ↔ IsGlob text) ∧
      (∀ text p, parse text = .ok p → p.text = text) ∧
      (∀ text text' p, parse text = .ok p → parse text' = .ok p → text = text') ∧
      ∀ p, parse p.text = .ok p ↔ p.IsReadable := by
  refine ⟨fun text => exists_parse_iff, fun text p => text_of_parse, ?_, fun p => parse_text_iff⟩
  intro text text' p h h'
  rw [← text_of_parse h, text_of_parse h']

/-- A star that could stand at either end counts as one that leads. -/
example : parse "*" = .ok ⟨true, [], false⟩ := by decide

/-! ### Matching -/

theorem glob_literal_append {ps : List Char} (h : '*' ∉ literal) :
    Glob (literal ++ ps) cs ↔ ∃ rest, cs = literal ++ rest ∧ Glob ps rest := by
  induction literal generalizing cs with
  | nil => simp
  | cons c literal ih =>
    rw [List.mem_cons, not_or] at h
    rw [List.cons_append, glob_cons_of_ne (Ne.symm h.1)]
    simp [ih h.2]

theorem glob_literal (h : '*' ∉ literal) : Glob literal cs ↔ cs = literal := by
  have happend : Glob (literal ++ []) cs ↔ ∃ rest, cs = literal ++ rest ∧ Glob [] rest :=
    glob_literal_append h
  simpa using happend

/-- A star at the end lets the text go on in any way. -/
theorem glob_literal_star (h : '*' ∉ literal) : Glob (literal ++ ['*']) cs ↔ literal <+: cs := by
  rw [glob_literal_append h]
  constructor
  · rintro ⟨rest, rfl, -⟩
    exact List.prefix_append literal rest
  · rintro ⟨rest, rfl⟩
    exact ⟨rest, rfl, glob_star_cons.mpr ⟨rest, [], (List.append_nil rest).symm, rfl⟩⟩

/-- A star at both ends lets the text go on in any way on both sides. -/
theorem glob_star_literal_star (h : '*' ∉ literal) :
    Glob ('*' :: (literal ++ ['*'])) cs ↔ literal <:+: cs := by
  rw [glob_star_cons]
  simp only [glob_literal_star h]
  constructor
  · rintro ⟨run, _, rfl, tail, rfl⟩
    exact ⟨run, tail, List.append_assoc run literal tail⟩
  · rintro ⟨run, tail, rfl⟩
    exact ⟨run, literal ++ tail, List.append_assoc run literal tail, List.prefix_append _ _⟩

/-- A pattern matches a text exactly if what is written for the pattern does so as a glob. -/
theorem accepts_iff_glob (h : ∀ c ∈ p.literal, isSpecial c = false) :
    p.accepts input = true ↔
      Glob (star p.leading ++ p.literal ++ star p.trailing) input.toList := by
  obtain ⟨leading, literal, trailing⟩ := p
  have hstar : '*' ∉ literal := star_not_mem h
  -- Each way to place the stars is a comparison of its own: all, start, end or any place.
  cases leading <;> cases trailing <;>
    simp only [accepts, star, if_true, Bool.false_eq_true, if_false, List.nil_append,
      List.append_nil, List.cons_append, glob_star_cons, glob_literal hstar,
      glob_literal_star hstar]
  case false.false => rw [beq_iff_eq, eq_comm]
  case false.true => rw [List.isPrefixOf_iff_prefix]
  case true.false =>
    rw [List.isSuffixOf_iff_suffix]
    constructor
    · intro ⟨run, hrun⟩
      exact ⟨run, literal, hrun.symm, rfl⟩
    · rintro ⟨run, rest, hrun, rfl⟩
      exact ⟨run, hrun.symm⟩
  case true.true =>
    rw [occursIn_iff, ← glob_star_literal_star hstar, glob_star_cons]
    simp only [glob_literal_star hstar]

/-- A pattern matches exactly the texts that its own text matches as a glob. -/
theorem accepts_iff_glob_of_parse (h : parse text = .ok p) :
    p.accepts input = true ↔ Glob text.toList input.toList := by
  rw [toList_eq_of_parse h]
  exact accepts_iff_glob (not_isSpecial_of_parse h)

/-- A pattern of stars alone, one at each end, matches what two stars match as a glob. -/
theorem accepts_iff_glob_of_parse_at_stars :
    parse "**" = .ok ⟨true, [], true⟩ ∧ Glob "**".toList "x86_64-pc-linux-gnu".toList := by
  have h : parse "**" = .ok ⟨true, [], true⟩ := by decide
  exact ⟨h, (accepts_iff_glob_of_parse h).mp (by decide)⟩

/-- The stars of a pattern reach over dashes, and without one at the end the text must end there. -/
example : Glob "*-linux*".toList "x86_64-pc-linux-gnu".toList ∧
    ¬ Glob "*-linux".toList "x86_64-pc-linux-gnu".toList := by
  decide

end Boilerplate.Pattern
