import Boilerplate.Proofs.CType.Split
import Boilerplate.Proofs.FieldType

/-!
# The place of `const`

In C, `const` may stand on either side of the name of a type: `char const *` and `const char *` are
the same type. Behind a star it says something else, namely that the pointer does not change, and
that makes no difference for a field.

The reader drops every `const` behind the name, whether a star stands in between or not. So
`char const *` is read as `char *`, and as the type of a field it is a string that belongs to the
record instead of a borrowed one. The two spellings are never read alike, whatever type is named and
however many stars follow.

## Main results

* `parse_of_marks` — a `const` behind the name is dropped
* `FieldType.ofCType_pointer_inj` — pointers are told apart by what they lead to
* `const_places_differ` — the two spellings are never read alike
* `const_behind_char` — a borrowed string that is read as an owned one
-/

namespace Boilerplate

open Token (ofText)

variable {base text east west : String} {ts marks : List Token} {t u : CType} {n : Nat}

namespace CType

/-! ### Names and marks -/

/-- A declaration without stars and `const`s is the name of a type. -/
theorem names_of_declares (h : Declares ts u) (hconst : .word "const" ∉ ts) (hstar : .star ∉ ts) :
    Names ts u := by
  obtain ⟨constant, name, marks, v, rfl, hnames, hmarks, rfl⟩ := h
  obtain rfl : marks = [] := by
    refine List.eq_nil_iff_forall_not_mem.mpr fun x hx => ?_
    rcases hmarks x hx with rfl | rfl
    · exact hstar (List.mem_append_right _ hx)
    · exact hconst (List.mem_append_right _ hx)
  cases constant with
  | true => simp [leading] at hconst
  | false => simpa [leading, qualify] using hnames

/-- Whatever marks stand behind the name of a type, only the stars among them count. -/
theorem parse_of_marks (h : Names (ofText base) u) (hmarks : AreMarks marks)
    (htext : ofText text = ofText base ++ marks) :
    parse text = .ok (pointer^[marks.count .star] u) :=
  parse_eq_ok_iff.mpr ⟨false, _, marks, u, htext, h, hmarks, rfl⟩

theorem areMarks_replicate (n : Nat) : AreMarks (List.replicate n .star) :=
  fun _ hx => .inl (List.eq_of_mem_replicate hx)

theorem const_ne (t : CType) : const t ≠ t := by
  intro h
  have hsize := congrArg sizeOf h
  simp at hsize

theorem iterate_pointer_injective (n : Nat) : Function.Injective (pointer^[n]) :=
  Function.Injective.iterate (fun _ _ => pointer.inj) n

/-- The name of a type never makes it constant. -/
theorem Names.ne_const (h : Names ts t) (u : CType) : t ≠ .const u := by
  cases h with
  | words h => fin_cases h <;> simp
  | struct tag => simp

end CType

namespace FieldType

/-! ### Types of fields -/

theorem eq_const_of_ofCType (h : ofCType t = .error .constant) : ∃ u, t = .const u := by
  cases ofCType_eq_error_iff.mp h with
  | constant base => exact ⟨base, rfl⟩

theorem eq_pointee_of_ofCType_pointer {cause : Fault} (h : ofCType (.pointer t) = .error cause) :
    cause = .pointee t := by
  cases ofCType_eq_error_iff.mp h with
  | pointee _ => rfl

/-- Pointers are told apart by what they lead to, whether they can be stored or not. -/
theorem ofCType_pointer_inj : ofCType (.pointer t) = ofCType (.pointer u) ↔ t = u := by
  refine ⟨fun h => ?_, fun h => congrArg (fun v => ofCType (.pointer v)) h⟩
  cases hread : ofCType (.pointer t) with
  | ok r =>
    have ht := cType_of_ofCType hread
    have hu := cType_of_ofCType (h ▸ hread)
    exact CType.pointer.inj (ht.symm.trans hu)
  | error cause =>
    have ht := eq_pointee_of_ofCType_pointer hread
    have hu := eq_pointee_of_ofCType_pointer (h ▸ hread)
    exact Fault.pointee.inj (ht.symm.trans hu)

/-- A type that is named and its constant version are different types of fields, under any number of
pointers. -/
theorem ofCType_iterate_ne (h : CType.Names ts u) (n : Nat) :
    ofCType (CType.pointer^[n] u) ≠ ofCType (CType.pointer^[n] (.const u)) := by
  intro heq
  cases n with
  | zero =>
    -- Constant values cannot be stored, and what is named is not constant.
    obtain ⟨v, hconst⟩ := eq_const_of_ofCType heq
    exact h.ne_const v hconst
  | succ n =>
    rw [Function.iterate_succ_apply', Function.iterate_succ_apply', ofCType_pointer_inj] at heq
    exact CType.const_ne u (CType.iterate_pointer_injective n heq).symm

end FieldType

namespace CType

/-! ### Both spellings -/

/-- Behind the name of a type, `const` is dropped, before and behind stars alike. In front of the
name it makes the named type constant. So the two spellings of a constant type are never read alike,
neither as types nor as types of fields, whatever type is named and however many stars follow. -/
theorem const_places_differ (hbase : parse base = .ok u) (hconst : .word "const" ∉ ofText base)
    (hstar : .star ∉ ofText base)
    (heast : ofText east = ofText base ++ .word "const" :: List.replicate n .star)
    (hwest : ofText west = .word "const" :: (ofText base ++ List.replicate n .star)) :
    (∀ text marks, ofText text = ofText base ++ marks → AreMarks marks →
        parse text = .ok (pointer^[marks.count .star] u)) ∧
      parse east = .ok (pointer^[n] u) ∧ parse west = .ok (pointer^[n] (.const u)) ∧
      parse east ≠ parse west ∧ FieldType.parse east ≠ FieldType.parse west := by
  have hnames : Names (ofText base) u :=
    names_of_declares (parse_eq_ok_iff.mp hbase) hconst hstar
  have hread (text : String) (marks : List Token) (htext : ofText text = ofText base ++ marks)
      (hmarks : AreMarks marks) : parse text = .ok (pointer^[marks.count .star] u) :=
    parse_of_marks hnames hmarks htext
  have hparseEast : parse east = .ok (pointer^[n] u) := by
    have hmarks : AreMarks (.word "const" :: List.replicate n .star) :=
      areMarks_cons.mpr ⟨.inr rfl, areMarks_replicate n⟩
    simpa using hread east _ heast hmarks
  have hparseWest : parse west = .ok (pointer^[n] (.const u)) := by
    refine parse_eq_ok_iff.mpr ⟨true, _, _, u, hwest, hnames, areMarks_replicate n, ?_⟩
    rw [List.count_replicate_self]
    rfl
  refine ⟨hread, hparseEast, hparseWest, ?_, ?_⟩
  · rw [hparseEast, hparseWest]
    intro heq
    exact const_ne u (iterate_pointer_injective n (Except.ok.inj heq)).symm
  · rw [FieldType.parse_eq_ofCType hparseEast, FieldType.parse_eq_ofCType hparseWest]
    exact FieldType.ofCType_iterate_ne hnames n

/-- Both spellings of a pointer to constant characters. -/
theorem const_places_differ_at_char :
    parse "char" = .ok (.scalar .char) ∧ Token.word "const" ∉ ofText "char" ∧
      Token.star ∉ ofText "char" ∧
      ofText "char const *" = ofText "char" ++ .word "const" :: List.replicate 1 .star ∧
      ofText "const char *" = .word "const" :: (ofText "char" ++ List.replicate 1 .star) ∧
      parse "char const *" = .ok (.pointer (.scalar .char)) ∧
      parse "const char *" = .ok (.pointer (.const (.scalar .char))) := by
  have hbase : parse "char" = .ok (.scalar .char) := by decide
  have hconst : Token.word "const" ∉ ofText "char" := by decide
  have hstar : Token.star ∉ ofText "char" := by decide
  have heast :
      ofText "char const *" = ofText "char" ++ .word "const" :: List.replicate 1 .star := by
    decide
  have hwest :
      ofText "const char *" = .word "const" :: (ofText "char" ++ List.replicate 1 .star) := by
    decide
  obtain ⟨-, hparseEast, hparseWest, -, -⟩ :=
    const_places_differ hbase hconst hstar heast hwest
  exact ⟨hbase, hconst, hstar, heast, hwest, hparseEast, hparseWest⟩

/-- With `const` behind the name, a borrowed string is read as one that the record owns, and a
constant number, which cannot be stored, as one that can. -/
theorem const_behind_char :
    FieldType.parse "char const *" = .ok (.pointer .string) ∧
      FieldType.parse "const char *" = .ok (.pointer .borrowedString) ∧
      FieldType.parse "int const" = .ok (.scalar .int) ∧
      FieldType.parse "const int" = .error .constant := by
  decide

end CType

end Boilerplate
