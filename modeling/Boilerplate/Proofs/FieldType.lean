import Boilerplate.FieldType
import Boilerplate.Proofs.CType.Normal

/-!
# Which types fields have

A C type is classified by looking at its outside: values apart from pointers, and pointers to the
few types with a meaning of their own apart from pointers to other arithmetic types. This module
says what comes out for every C type. A field type is found again from its C type, which it shares
with no other except where a pointer to `char` could be a string or lead to one character; and a C
type is refused for one of a few reasons that can be seen from the type.

Since a declared type is found again from its spelling, the spelling of a field type that was
declared stands for that field type and no other.

## Main definitions

* `CType.IsPlain` — the arithmetic types without qualifier
* `FieldType.Refuses` — why a C type is not the type of a field, as rules

## Main results

* `ofCType_eq_ok_iff` — which field type a C type stands for
* `ofCType_eq_error_iff` — why a C type stands for none
* `exists_ofCType_iff` — the C types of fields
* `parse_spelling` — a declared field type is read back from its spelling
* `classification_exact` — all of it
-/

namespace Boilerplate

variable {t : CType} {r other : FieldType} {text : String}

namespace CType

/-- The arithmetic types without qualifier. -/
def IsPlain (t : CType) : Prop := t.isArithmetic = true ∧ ∀ base, t ≠ .const base

/-- An arithmetic type without qualifier is one that has a scalar. -/
theorem isPlain_iff_isSome_scalar? : t.IsPlain ↔ t.scalar?.isSome = true := by
  cases t <;> simp [IsPlain, isArithmetic, stripConst, scalar?]

theorem isPlain_iff_exists_scalar : t.IsPlain ↔ ∃ kind, t = .scalar kind := by
  simp only [isPlain_iff_isSome_scalar?, Option.isSome_iff_exists, scalar?_eq_some_iff]

end CType

namespace FieldType

variable {fault : Fault}

/-- The types of fields can be declared. -/
theorem isNormal_cType (t : FieldType) : t.cType.IsNormal := by
  rcases t with kind | (_ | _ | _ | kind)
  · exact .leaf (.scalar kind)
  · exact .pointer (.leaf (.scalar .char))
  · exact .pointer (.const (.scalar .char))
  · exact .pointer (.leaf .void)
  · exact .pointer (.leaf (.scalar kind))

/-! ### What a C type stands for -/

/-- A C type stands for the field type that has it. Of the two that have a pointer to `char`, that
is the string. -/
theorem ofCType_eq_ok_iff :
    ofCType t = .ok r ↔ r.cType = t ∧ r ≠ .pointer (.scalar .char) := by
  constructor
  · intro h
    refine ⟨cType_of_ofCType h, ?_⟩
    rintro rfl
    rw [← cType_of_ofCType h] at h
    exact absurd h (by decide)
  · rintro ⟨rfl, hne⟩
    rcases r with kind | (_ | _ | _ | kind)
    case pointer.scalar =>
      cases kind with
      | char => exact absurd rfl hne
      | _ => rfl
    all_goals rfl

/-- The C types that stand for some field type are those that field types have. -/
theorem exists_ofCType_iff_exists_cType :
    (∃ r, ofCType t = .ok r) ↔ ∃ r : FieldType, r.cType = t := by
  constructor
  · rintro ⟨r, h⟩
    exact ⟨r, cType_of_ofCType h⟩
  · rintro ⟨r, rfl⟩
    by_cases hchar : r = .pointer (.scalar .char)
    · exact ⟨.pointer .string, by rw [hchar]; rfl⟩
    · exact ⟨r, ofCType_eq_ok_iff.mpr ⟨rfl, hchar⟩⟩

/-- The C types of fields: arithmetic ones without qualifier, and pointers to these, to constant
characters and to nothing known. -/
theorem exists_ofCType_iff :
    (∃ r, ofCType t = .ok r) ↔ t.IsPlain ∨ ∃ target, t = .pointer target ∧
      (target = .scalar .char ∨ target = .const (.scalar .char) ∨ target = .void ∨
        target.IsPlain) := by
  simp only [exists_ofCType_iff_exists_cType, CType.isPlain_iff_exists_scalar]
  constructor
  · rintro ⟨kind | (_ | _ | _ | kind), rfl⟩
    · exact .inl ⟨kind, rfl⟩
    · exact .inr ⟨_, rfl, .inl rfl⟩
    · exact .inr ⟨_, rfl, .inr (.inl rfl)⟩
    · exact .inr ⟨_, rfl, .inr (.inr (.inl rfl))⟩
    · exact .inr ⟨_, rfl, .inr (.inr (.inr ⟨kind, rfl⟩))⟩
  · rintro (⟨kind, rfl⟩ | ⟨_, rfl, rfl | rfl | rfl | ⟨kind, rfl⟩⟩)
    · exact ⟨.scalar kind, rfl⟩
    · exact ⟨.pointer .string, rfl⟩
    · exact ⟨.pointer .borrowedString, rfl⟩
    · exact ⟨.pointer .handle, rfl⟩
    · exact ⟨.pointer (.scalar kind), rfl⟩

/-- Why a C type is not the type of a field. A pointer is refused for what it leads to. -/
inductive Refuses : CType → Fault → Prop
  | constant (base : CType) : Refuses (.const base) .constant
  | void : Refuses .void .void
  | struct (tag : String) : Refuses (.struct tag) .aggregate
  | named (name : String) : Refuses (.named name) .aggregate
  | pointee {target : CType} (h : ∀ r : FieldType, r.cType ≠ .pointer target) :
    Refuses (.pointer target) (.pointee target)

theorem refuses_of_ofCType (h : ofCType t = .error fault) : Refuses t fault := by
  have hnone : ∀ r : FieldType, r.cType ≠ t := by
    intro r hr
    obtain ⟨r', hr'⟩ := exists_ofCType_iff_exists_cType.mpr ⟨r, hr⟩
    rw [h] at hr'
    cases hr'
  revert h
  -- What remains are the branches that fail.
  fun_cases ofCType t <;> intro h <;> cases h
  case case5 => exact .pointee hnone
  case case6 base => exact .constant base
  case case7 => exact .void
  case case8 tag => exact .struct tag
  case case9 name => exact .named name
  case case11 =>
    -- A type that is none of the others is arithmetic, and so nothing is left to be unsupported.
    cases t <;> simp_all [CType.scalar?]

/-- A C type is refused for the one reason that can be seen from it. -/
theorem ofCType_eq_error_iff : ofCType t = .error fault ↔ Refuses t fault := by
  refine ⟨refuses_of_ofCType, fun h => ?_⟩
  cases h with
  | @pointee target hnone =>
    cases hread : ofCType (.pointer target) with
    | ok r => exact absurd (cType_of_ofCType hread) (hnone r)
    | error cause =>
      cases refuses_of_ofCType hread
      rfl
  | _ => rfl

/-- No C type is left over as merely unsupported. -/
theorem ofCType_ne_unsupported (u : CType) : ofCType t ≠ .error (.unsupported u) := by
  intro h
  cases ofCType_eq_error_iff.mp h

/-! ### What a text declares -/

theorem parse_eq_ofCType (h : CType.parse text = .ok t) : parse text = ofCType t := by
  rw [parse, h]

theorem parse_eq_ok_iff :
    parse text = .ok r ↔ ∃ t, CType.parse text = .ok t ∧ ofCType t = .ok r := by
  cases hread : CType.parse text with
  | error cause => simp [parse, hread]
  | ok t => simp [parse_eq_ofCType hread]

/-- Only the field types that C types stand for are declared. -/
theorem ofCType_cType_of_parse (h : parse text = .ok r) : ofCType r.cType = .ok r := by
  obtain ⟨t, -, hof⟩ := parse_eq_ok_iff.mp h
  rw [cType_of_ofCType hof, hof]

/-- A field type that was declared is read back from its spelling. -/
theorem parse_spelling (h : parse text = .ok r) : parse r.spelling = .ok r := by
  rw [spelling, parse_eq_ofCType (CType.parse_spelling r.isNormal_cType)]
  exact ofCType_cType_of_parse h

/-- Field types that were declared are told apart by their spelling. -/
theorem spelling_inj {text' : String} (h : parse text = .ok r) (h' : parse text' = .ok other) :
    r.spelling = other.spelling ↔ r = other := by
  refine ⟨fun heq => ?_, congrArg spelling⟩
  have hread := parse_spelling h
  rw [heq, parse_spelling h'] at hread
  exact (Except.ok.inj hread).symm

/-- A C type is the type of a field exactly if it is arithmetic without qualifier, or a pointer to
such a type, to `char`, to constant `char` or to `void`. The field type has just that C type, and it
is a value rather than a pointer exactly for the arithmetic types, so that no type is refused as
unsupported for want of another reason. A field type that was declared is read back from its
spelling, and different ones are spelled differently. -/
theorem classification_exact :
    (∀ t, (∃ r, ofCType t = .ok r) ↔ t.IsPlain ∨ ∃ target, t = .pointer target ∧
      (target = .scalar .char ∨ target = .const (.scalar .char) ∨ target = .void ∨
        target.IsPlain)) ∧
    (∀ t r, ofCType t = .ok r →
      r.cType = t ∧ ((∃ kind, r = .scalar kind) ↔ t.scalar?.isSome = true)) ∧
    (∀ t, (t.scalar?.isSome = true ↔ t.IsPlain) ∧ ∀ u, ofCType t ≠ .error (.unsupported u)) ∧
    (∀ text r, parse text = .ok r → parse r.spelling = .ok r) ∧
    ∀ text text' r other, parse text = .ok r → parse text' = .ok other →
      r ≠ other → r.spelling ≠ other.spelling := by
  refine ⟨fun t => exists_ofCType_iff, fun t r h => ⟨cType_of_ofCType h, ?_⟩,
    fun t => ⟨CType.isPlain_iff_isSome_scalar?.symm, ofCType_ne_unsupported⟩,
    fun text r => parse_spelling, fun text text' r other h h' => mt (spelling_inj h h').mp⟩
  obtain rfl := cType_of_ofCType h
  rcases r with kind | (_ | _ | _ | kind) <;> simp [cType, Pointee.pointerType, CType.scalar?]

/-- A pointer to one character cannot be declared: its spelling is that of a string. -/
example : parse (spelling (.pointer (.scalar .char))) = .ok (.pointer .string) := by decide

end FieldType

end Boilerplate
