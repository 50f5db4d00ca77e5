import Boilerplate.Proofs.CType.Grammar
import Boilerplate.Proofs.CType.Token

/-!
# Types that can be declared

Not every type can be declared in a text: a qualifier can only stand around the innermost part, and
names from type definitions are not known to the reader. The types that can be declared are those
that are read back from their own spelling.

## Main definitions

* `CType.IsLeaf` — the types without pointers and qualifiers that can be named
* `CType.IsNormal` — pointers around a leaf that may be constant

## Main results

* `isNormal_of_parse` — what is declared is of this form
* `parse_spelling` — types of this form are read back from their spelling
* `spelling_inj` — the spelling tells them apart
* `parse_spelling_iff` — no other types are read back
-/

namespace Boilerplate.CType

open Token (IsWord)

variable {t u : CType} {ts : List Token} {input : String}

/-- The types that are named without pointers and qualifiers: the built-in ones, and structures
whose tag can be a word. -/
inductive IsLeaf : CType → Prop
  | void : IsLeaf .void
  | scalar (kind : Scalar) : IsLeaf (.scalar kind)
  | struct {tag : String} (h : IsWord tag) : IsLeaf (.struct tag)

/-- The types that are pointers, any number of them, around a leaf that may be constant. -/
inductive IsNormal : CType → Prop
  | leaf {t : CType} (h : IsLeaf t) : IsNormal t
  | const {t : CType} (h : IsLeaf t) : IsNormal (.const t)
  | pointer {t : CType} (h : IsNormal t) : IsNormal (.pointer t)

/-! ### What is declared -/

theorem isLeaf_of_mem_wordTypes {entry : List String × CType} (h : entry ∈ wordTypes) :
    IsLeaf entry.2 := by
  fin_cases h
  · exact .void
  all_goals exact .scalar _

theorem isLeaf_of_names (h : Names ts t) (hwords : ∀ w, .word w ∈ ts → IsWord w) : IsLeaf t := by
  cases h with
  | words h => exact isLeaf_of_mem_wordTypes h
  | struct tag => exact .struct (hwords tag (by simp))

theorem isNormal_qualify (h : IsLeaf t) (constant : Bool) : IsNormal (qualify constant t) := by
  cases constant with
  | true => exact .const h
  | false => exact .leaf h

theorem IsNormal.iterate (h : IsNormal t) (n : Nat) : IsNormal (CType.pointer^[n] t) := by
  induction n generalizing t with
  | zero => exact h
  | succ n ih => exact ih h.pointer

theorem isNormal_of_declares (h : Declares ts t) (hwords : ∀ w, .word w ∈ ts → IsWord w) :
    IsNormal t := by
  obtain ⟨constant, base, marks, u, rfl, hnames, -, rfl⟩ := h
  have hleaf : IsLeaf u := isLeaf_of_names hnames fun w hw => hwords w (by simp [hw])
  exact (isNormal_qualify hleaf constant).iterate _

/-- What a text declares is a normal type. -/
theorem isNormal_of_parse (h : parse input = .ok t) : IsNormal t :=
  isNormal_of_declares (parse_eq_ok_iff.mp h) fun _ => Token.isWord_of_mem

/-! ### What is read back -/

theorem names_scalar (kind : Scalar) : Names (Token.ofText kind.spelling) (.scalar kind) := by
  -- Several entries may name an arithmetic type; its spelling is one of them.
  have hentry : ∃ entry ∈ wordTypes,
      entry.2 = .scalar kind ∧ Token.ofText kind.spelling = entry.1.map .word := by
    cases kind <;> decide
  obtain ⟨⟨words, t⟩, hmem, rfl, htokens⟩ := hentry
  rw [htokens]
  exact .words hmem

/-- The spelling of a leaf names it. -/
theorem IsLeaf.names (h : IsLeaf t) : Names (Token.ofText t.spelling) t := by
  cases h with
  | void =>
    have hmem : (["void"], CType.void) ∈ wordTypes := by decide
    exact .words hmem
  | scalar kind => exact names_scalar kind
  | @struct tag h =>
    have hspelling : (CType.struct tag).spelling = "struct" ++ " " ++ tag := rfl
    rw [hspelling, Token.ofText_append_blank, Token.ofText_word h]
    exact .struct tag

theorem IsLeaf.declares (h : IsLeaf t) : Declares (Token.ofText t.spelling) t :=
  ⟨false, _, [], t, (List.append_nil _).symm, h.names, fun _ hx => absurd hx List.not_mem_nil, rfl⟩

/-- The spelling of a normal type declares it. -/
theorem IsNormal.declares (h : IsNormal t) : Declares (Token.ofText t.spelling) t := by
  induction h with
  | leaf h => exact h.declares
  | @const t h =>
    -- The qualifier stands in front, where a declaration may have one.
    have hspelling : (CType.const t).spelling = "const" ++ " " ++ t.spelling := rfl
    refine ⟨true, _, [], t, ?_, h.names, fun _ hx => absurd hx List.not_mem_nil, rfl⟩
    rw [hspelling, Token.ofText_append_blank, List.append_nil]
    rfl
  | @pointer t _ ih =>
    -- The star of the pointer is one more mark at the end.
    obtain ⟨constant, base, marks, u, htokens, hnames, hmarks, ht⟩ := ih
    refine ⟨constant, base, marks ++ [.star], u, ?_, hnames, ?_, ?_⟩
    · rw [spelling, Token.ofText_append_star, htokens, List.append_assoc]
    · intro x hx
      rcases List.mem_append.mp hx with hx | hx
      · exact hmarks x hx
      · exact Or.inl (List.mem_singleton.mp hx)
    · rw [List.count_append, List.count_singleton_self, Function.iterate_succ_apply', ← ht]

/-- A normal type is read back from its spelling. -/
theorem parse_spelling (h : IsNormal t) : parse t.spelling = .ok t := parse_eq_ok_iff.mpr h.declares

/-- Different normal types are spelled differently. -/
theorem spelling_inj (ht : IsNormal t) (hu : IsNormal u) : t.spelling = u.spelling ↔ t = u := by
  constructor
  · intro h
    have hparse := parse_spelling hu
    rw [← h, parse_spelling ht] at hparse
    exact Except.ok.inj hparse
  · exact congrArg spelling

/-- A type is read back from its own spelling exactly if it is normal: pointers, any number of them,
around a leaf that may be constant. Whatever a text declares is of this form, so to write a declared
type out and read it again gives the same type. -/
theorem parse_spelling_iff :
    (∀ t : CType, parse t.spelling = .ok t ↔ t.IsNormal) ∧
      ∀ (input : String) (t : CType), parse input = .ok t →
        t.IsNormal ∧ parse t.spelling = .ok t := by
  constructor
  · exact fun t => ⟨isNormal_of_parse, parse_spelling⟩
  · intro input t h
    have hnormal := isNormal_of_parse h
    exact ⟨hnormal, parse_spelling hnormal⟩

end Boilerplate.CType
